import Rekindle.Server.Holdings

/-! # Where permission bits come from

MANAGE_ROLES is not bounded by the bits of its holder: a role can be created, edited or assigned
with any bits. These requests and a join are the only ways in which a member gains one.
-/
namespace Rekindle.Server
set_option autoImplicit false
open Fallible Runs

section
variable {now : UInt64} {community : HostedCommunity} {sender : String}

theorem permitted_iff (h : isCreator community sender = false) (required : Permissions) :
    Permitted now community sender required ↔
      hasPermission (memberBasePermissions now community sender) required = true := by
  unfold Permitted checkPermission
  rw [h]
  simp only [Bool.false_eq_true, if_false]
  split <;> simp_all

theorem outranks_iff (h : isCreator community sender = false) (target : String) :
    Outranks community sender target ↔
      highestRolePosition community target < highestRolePosition community sender := by
  unfold Outranks checkHierarchy
  rw [h]
  simp only [Bool.false_eq_true, if_false]
  split <;> simp_all

end

/-- `Q` holds of what the request does to the community, if it is hosted. -/
def InCommunity (communityId : String)
    (Q : IncomingRequest → HostedCommunity → HostedCommunity → Prop)
    (state : ServerState) (incoming : IncomingRequest) : Prop :=
  ∀ before after, state.hosted.lookup communityId = some before →
    (serve state incoming).hosted.lookup communityId = some after → Q incoming before after

theorem inCommunity_of_changed {Q : IncomingRequest → HostedCommunity → HostedCommunity → Prop}
    (h : ∀ incoming before after,
      Changed incoming.env incoming.sender incoming.request before after → Q incoming before after)
    (communityId : String) (state : ServerState) (incoming : IncomingRequest) :
    InCommunity communityId Q state incoming := by
  intro before after hBefore hAfter
  obtain ⟨changed, hChanged, hChange⟩ := serve_changed state incoming hBefore
  rw [hChanged] at hAfter
  cases hAfter
  exact h incoming before after hChange

def Gains (before after : HostedCommunity) (pseudonym : String) (bit : Nat) : Prop :=
  (rolePermissions after pseudonym).getLsbD bit = true ∧
    (rolePermissions before pseudonym).getLsbD bit = false

def MayManageRoles (env : Environment) (sender : String) (community : HostedCommunity) : Prop :=
  hasPermission (memberBasePermissions env.now community sender) manageRoles = true

/-- The role reaches the member: it is @everyone or one that the member holds. -/
def Reaches (community : HostedCommunity) (roleId : UInt32) (pseudonym : String) : Prop :=
  roleId = roleEveryoneId ∨ Holds community pseudonym roleId

/-- The requests that give a member a bit, whatever bits the sender has. -/
def GrantedBy (env : Environment) (sender : String) (before after : HostedCommunity)
    (pseudonym : String) (bit : Nat) : CommunityRequest → Prop
  | .join _ _ _ => pseudonym = sender ∧ findMember before.members sender = none ∧
      rolePermissions after sender =
        basePermissions (defaultRoleIds before.members.isEmpty) before.roles ∧
      (before.members.isEmpty = true → after.creatorPseudonymHex = sender)
  | .member (.createRole _ _ permissions _ _) => MayManageRoles env sender before ∧
      permissions.getLsbD bit = true ∧ findRole before.roles (nextRoleId before.roles) = none ∧
      Reaches before (nextRoleId before.roles) pseudonym
  | .member (.editRole roleId edit) => MayManageRoles env sender before ∧
      (∃ permissions, edit.permissions = some permissions ∧ permissions.getLsbD bit = true) ∧
      Reaches before roleId pseudonym ∧ ∃ role, findRole before.roles roleId = some role ∧
        (role.position < highestRolePosition before sender ∨
          isAdministrator (memberBasePermissions env.now before sender) = true)
  | .member (.assignRole target roleId) => MayManageRoles env sender before ∧
      target = pseudonym ∧ highestRolePosition before target < highestRolePosition before sender ∧
      ∃ role, findRole before.roles roleId = some role ∧ role.permissions.getLsbD bit = true ∧
        role.position < highestRolePosition before sender
  | _ => False

section
variable {env : Environment} {sender : String} {community : HostedCommunity}
variable {request : CommunityRequest}

theorem request_of_assignRole {target : String} {roleId : UInt32}
    (h : requestedChange env sender community request = .assignRole target roleId) :
    request = .member (.assignRole target roleId) := by
  unfold requestedChange at h
  grind

theorem request_of_editRole {roleId : UInt32} {edit : RoleEdit}
    (h : requestedChange env sender community request = .editRole roleId edit) :
    request = .member (.editRole roleId edit) := by
  unfold requestedChange at h
  grind

theorem request_of_createRole {role : RoleDefinition}
    (h : requestedChange env sender community request = .createRole role) :
    role.id = nextRoleId community.roles ∧ role.position = newRolePosition sender community ∧
      request = .member (.createRole role.name role.color role.permissions role.hoist
        role.mentionable) := by
  unfold requestedChange at h
  grind

theorem request_of_join {displayName : String} {joinedAt : Int} {routeBlob : Option (List UInt8)}
    (h : requestedChange env sender community request = .join displayName joinedAt routeBlob) :
    ∃ pseudonym, request = .join pseudonym displayName routeBlob := by
  unfold requestedChange at h
  grind

end

theorem SameAuthority.rolePermissions_eq {first second : HostedCommunity}
    (h : SameAuthority first second) (pseudonym : String) :
    rolePermissions first pseudonym = rolePermissions second pseudonym := by
  unfold rolePermissions
  rw [h.members, h.roles]

section
variable {env : Environment} {sender pseudonym : String} {bit : Nat}
variable {request : CommunityRequest} {before after : HostedCommunity} {change : Change}

theorem rolePermissions_joined {displayName : String} {joinedAt : Int}
    {routeBlob : Option (List UInt8)} (h : findMember before.members sender = none) :
    rolePermissions ((Change.join displayName joinedAt routeBlob).apply sender before) sender =
      basePermissions (defaultRoleIds before.members.isEmpty) before.roles := by
  unfold rolePermissions
  have hJoined : findMember
      ((Change.join displayName joinedAt routeBlob).apply sender before).members sender =
        some (newMember before sender displayName joinedAt routeBlob) := by
    simp only [Change.apply, findMember_joined, h, Option.none_or, newMember, if_true]
  rw [hJoined]
  rfl

/-- A bit that comes with a role the member had before comes from a new or an edited role. -/
theorem granted_of_role {roleId : UInt32} {role : RoleDefinition}
    (hNot : isCreator before sender = false) (hAllowed : change.Allowed env.now before sender)
    (hRequested : requestedChange env sender before request = change)
    (hReaches : Reaches before roleId pseudonym)
    (hRole : findRole (change.apply sender before).roles roleId = some role)
    (hBit : role.permissions.getLsbD bit = true)
    (hLacked : ∀ old, findRole before.roles roleId = some old → old.permissions.getLsbD bit = false) :
    GrantedBy env sender before after pseudonym bit request := by
  rcases role_of_apply hRole with hOld | ⟨rfl, rfl, hNone⟩ | ⟨edit, old, rfl, hOld, rfl⟩
  · rw [hLacked role hOld] at hBit
    cases hBit
  · obtain ⟨hPermitted, _, _⟩ := hAllowed
    obtain ⟨hId, _, rfl⟩ := request_of_createRole hRequested
    rw [hId] at hNone hReaches
    exact ⟨(permitted_iff hNot _).mp hPermitted, hBit, hNone, hReaches⟩
  · obtain ⟨hPermitted, hBelow⟩ := hAllowed
    obtain rfl := request_of_editRole hRequested
    refine ⟨(permitted_iff hNot _).mp hPermitted, ?_, hReaches, hBelow⟩
    cases hPermissions : edit.permissions with
    | some permissions =>
      rw [RoleEdit.apply, hPermissions] at hBit
      exact ⟨permissions, rfl, hBit⟩
    | none =>
      have hKept : (edit.apply old).permissions = old.permissions := by
        rw [RoleEdit.apply, hPermissions, Option.getD_none]
      rw [hKept, hLacked old hOld] at hBit
      cases hBit

theorem granted_of_gain (hNot : isCreator before sender = false)
    (hAllowed : change.Allowed env.now before sender)
    (hRequested : requestedChange env sender before request = change)
    (hSame : SameAuthority after (change.apply sender before))
    (hGain : Gains before after pseudonym bit) :
    GrantedBy env sender before after pseudonym bit request := by
  obtain ⟨hAfter, hBefore⟩ := hGain
  rw [hSame.rolePermissions_eq, getLsbD_rolePermissions] at hAfter
  obtain ⟨member, roleId, role, hMember, hReach, hRole, hBit⟩ := hAfter
  cases hOld : findMember before.members pseudonym with
  | none =>
    obtain ⟨rfl, displayName, joinedAt, routeBlob, rfl, _⟩ := findMember_apply_of_none hOld hMember
    obtain ⟨claimed, rfl⟩ := request_of_join hRequested
    refine ⟨rfl, hOld, ?_, fun hEmpty => ?_⟩
    · rw [hSame.rolePermissions_eq]
      exact rolePermissions_joined hOld
    · rw [hSame.creator, Change.apply, if_pos hEmpty]
  | some old =>
    rw [findMember_apply_of_some hOld] at hMember
    have hLacked (held : RoleDefinition) (hHeld : roleId = roleEveryoneId ∨ roleId ∈ old.roleIds)
        (hFound : findRole before.roles roleId = some held) :
        held.permissions.getLsbD bit = false := by
      by_contra hHas
      have hGot := getLsbD_rolePermissions.mpr
        ⟨old, roleId, held, hOld, hHeld, hFound, eq_true_of_ne_false hHas⟩
      rw [hBefore] at hGot
      cases hGot
    by_cases hAssigned : change = .assignRole pseudonym roleId
    · subst hAssigned
      obtain rfl := request_of_assignRole hRequested
      obtain ⟨hPermitted, hOutranks, hPosition⟩ := hAllowed
      have hFound : findRole before.roles roleId = some role := hRole
      rw [rolePosition, hFound] at hPosition
      exact ⟨(permitted_iff hNot _).mp hPermitted, rfl, (outranks_iff hNot _).mp hOutranks, role,
        hFound, hBit, hPosition⟩
    · have hHeld : roleId = roleEveryoneId ∨ roleId ∈ old.roleIds := by
        rcases hReach with hEveryone | hIn
        · exact .inl hEveryone
        · exact .inr ((mem_roleIds_of_onMember hMember hIn).resolve_right hAssigned)
      have hReaches : Reaches before roleId pseudonym :=
        hHeld.imp_right fun hIn => ⟨old, hOld, hIn⟩
      exact granted_of_role hNot hAllowed hRequested hReaches hRole hBit fun held =>
        hLacked held hHeld

theorem not_gains_of_sameAuthority (h : SameAuthority after before) :
    ¬Gains before after pseudonym bit := by
  rintro ⟨hAfter, hBefore⟩
  rw [h.rolePermissions_eq, hBefore] at hAfter
  cases hAfter

end

/-- Along every run, a request of someone who is not the creator makes a member gain a permission
bit only as a join, or as a creation, an edit or an assignment of a role. -/
theorem gains_granted (communityId : String) (state : ServerState) (run : List IncomingRequest) :
    Along serve (InCommunity communityId fun incoming before after =>
      isCreator before incoming.sender = false → ∀ pseudonym bit,
        Gains before after pseudonym bit →
          GrantedBy incoming.env incoming.sender before after pseudonym bit incoming.request)
      state run := by
  apply Along.of_forall
  apply inCommunity_of_changed
  intro incoming before after hChanged hNot pseudonym bit hGain
  rcases hChanged with hSame | ⟨change, hRequested, hAllowed, hSame⟩
  · exact (not_gains_of_sameAuthority hSame hGain).elim
  · exact granted_of_gain hNot hAllowed hRequested.symm hSame hGain

/-! ## An administrator role out of nothing -/

/-- No gain beyond the sender's bits; a joiner has the bits of @everyone and of Member. -/
def NoEscalation (incoming : IncomingRequest) (before after : HostedCommunity) : Prop :=
  ∀ pseudonym bit, Gains before after pseudonym bit →
    (rolePermissions before incoming.sender).getLsbD bit = true ∨
      (∃ claimed displayName routeBlob, incoming.request = .join claimed displayName routeBlob) ∧
        pseudonym = incoming.sender ∧
        rolePermissions after pseudonym = basePermissions [roleEveryoneId, 1] before.roles

def NotByCreator (incoming : IncomingRequest) (before _ : HostedCommunity) : Prop :=
  isCreator before incoming.sender = false

/-- Alice hosts a community, Bob and Carol join, and Alice makes Bob an Admin. -/
def sampleCommunityEvents : List ServerEvent :=
  [.host sampleEnvironment "c" "Community" "alice" "Alice" (.ok ()),
   .request (sampleRequest "bob" (.join "bob" "Bob" none)),
   .request (sampleRequest "carol" (.join "carol" "Carol" none)),
   .request (sampleRequest "alice" (.member (.assignRole "bob" 3)))]

def sampleCommunityState : ServerState :=
  final handleEvent (ServerState.initial []) sampleCommunityEvents

/-- Bob, without ADMINISTRATOR, creates a role that has it .. -/
def createRootRole : IncomingRequest :=
  sampleRequest "bob" (.member (.createRole "root" 0 administrator false false))

/-- .. and assigns it to Carol. -/
def assignRootRole : IncomingRequest := sampleRequest "bob" (.member (.assignRole "carol" 5))

theorem root_role_granted :
    ¬∀ state, Reachable state → ∀ communityId run,
      Along serve (InCommunity communityId NotByCreator) state run →
        Along serve (InCommunity communityId NoEscalation) state run := by
  intro hClaim
  have hByBob : Along serve (InCommunity "c" NotByCreator) sampleCommunityState
      [createRootRole, assignRootRole] := by
    have hFirst : inSample sampleCommunityState (!isCreator · "bob") = true := by decide +kernel
    have hSecond : inSample (serve sampleCommunityState createRootRole) (!isCreator · "bob") = true := by
      decide +kernel
    refine ⟨fun before _ hBefore _ => ?_, fun before _ hBefore _ => ?_, trivial⟩
    · exact (Bool.not_eq_true' _).mp (test_of_inSample hFirst hBefore)
    · exact (Bool.not_eq_true' _).mp (test_of_inSample hSecond hBefore)
  obtain ⟨_, hAssign, _⟩ :=
    hClaim sampleCommunityState ⟨[], sampleCommunityEvents, rfl⟩ "c" _ hByBob
  have hCreated : inSample (serve sampleCommunityState createRootRole) (fun community =>
      !(rolePermissions community "carol").getLsbD 3 &&
        !(rolePermissions community "bob").getLsbD 3) = true := by decide +kernel
  have hAssigned : inSample (serve (serve sampleCommunityState createRootRole) assignRootRole)
      (fun community => (rolePermissions community "carol").getLsbD 3) = true := by decide +kernel
  obtain ⟨before, hBefore⟩ := exists_of_inSample hCreated
  obtain ⟨after, hAfter⟩ := exists_of_inSample hAssigned
  have hLacked := test_of_inSample hCreated hBefore
  rw [Bool.and_eq_true, Bool.not_eq_true', Bool.not_eq_true'] at hLacked
  have hGain : Gains before after "carol" 3 := ⟨test_of_inSample hAssigned hAfter, hLacked.1⟩
  rcases hAssign before after hBefore hAfter "carol" 3 hGain with hBit | ⟨⟨_, _, _, hJoin⟩, _⟩
  · exact Bool.false_ne_true (hLacked.2.symm.trans hBit)
  · cases hJoin

end Rekindle.Server
