import Rekindle.Server.Escalation

/-! # The role hierarchy

What a request of an ordinary sender, neither the creator nor an administrator, can do to roles,
ranks and members; and who is safe from such senders along a run.
-/
namespace Rekindle.Server
set_option autoImplicit false
open Fallible Runs

section
variable {env : Environment} {sender : String} {community : HostedCommunity}
variable {request : CommunityRequest}

theorem request_of_deleteRole {roleId : UInt32}
    (h : requestedChange env sender community request = .deleteRole roleId) :
    request = .member (.deleteRole roleId) := by
  unfold requestedChange at h
  grind

theorem request_of_leave (h : requestedChange env sender community request = .leave) :
    request = .member .leave := by
  unfold requestedChange at h
  grind

end

theorem SameAuthority.highestRolePosition_eq {first second : HostedCommunity}
    (h : SameAuthority first second) (pseudonym : String) :
    highestRolePosition first pseudonym = highestRolePosition second pseudonym := by
  unfold highestRolePosition
  rw [h.members, h.roles]

/-- What becomes of a role: it stays, is new at the position for new roles, or was below the
sender. -/
def RoleStep (incoming : IncomingRequest) (before after : HostedCommunity) (roleId : UInt32) : Prop :=
  findRole after.roles roleId = findRole before.roles roleId ∨
    (∃ role, findRole before.roles roleId = none ∧ findRole after.roles roleId = some role ∧
      role.position = max (highestRolePosition before incoming.sender).pred Position.one) ∨
    ∃ old, findRole before.roles roleId = some old ∧
      old.position < highestRolePosition before incoming.sender ∧
      (findRole after.roles roleId = none ∨ ∃ edit, incoming.request = .member (.editRole roleId edit) ∧
        findRole after.roles roleId = some (edit.apply old))

/-- How a member can come to a rank at or above the sender's. -/
def RankStep (incoming : IncomingRequest) (before after : HostedCommunity) (pseudonym : String) : Prop :=
  (∃ claimed displayName routeBlob, incoming.request = .join claimed displayName routeBlob ∧
      pseudonym = incoming.sender ∧ findMember before.members pseudonym = none ∧
      ∃ roleId ∈ defaultRoleIds before.members.isEmpty, ∃ role,
        findRole before.roles roleId = some role ∧
        role.position = highestRolePosition after pseudonym) ∨
    (highestRolePosition before incoming.sender ≤ Position.one ∧
      highestRolePosition after pseudonym = Position.one ∧
      ∃ name color permissions hoist mentionable,
        incoming.request = .member (.createRole name color permissions hoist mentionable)) ∨
    ∃ roleId edit position, incoming.request = .member (.editRole roleId edit) ∧
      edit.position = some position

/-- A member goes, or is timed out, only by someone above it; it may leave by itself. -/
def MemberStep (incoming : IncomingRequest) (before after : HostedCommunity) (pseudonym : String) : Prop :=
  ∀ member, findMember before.members pseudonym = some member →
    highestRolePosition before pseudonym < highestRolePosition before incoming.sender ∨
      (incoming.request = .member .leave ∧ pseudonym = incoming.sender) ∨
      ∃ same, findMember after.members pseudonym = some same ∧
        (same.timeoutUntil = member.timeoutUntil ∨ same.timeoutUntil = none)

structure KeepsHierarchy (incoming : IncomingRequest) (before after : HostedCommunity) : Prop where
  roles : ∀ roleId, RoleStep incoming before after roleId
  ranks : ∀ pseudonym, Position.none < highestRolePosition after pseudonym →
    highestRolePosition before pseudonym < highestRolePosition after pseudonym →
    highestRolePosition before incoming.sender ≤ highestRolePosition after pseudonym →
    RankStep incoming before after pseudonym
  members : ∀ pseudonym, MemberStep incoming before after pseudonym

/-- The sender is neither the creator nor an administrator. -/
def Ordinary (incoming : IncomingRequest) (before : HostedCommunity) : Prop :=
  isCreator before incoming.sender = false ∧
    isAdministrator (memberBasePermissions incoming.env.now before incoming.sender) = false

section
variable {incoming : IncomingRequest} {before after : HostedCommunity} {change : Change}

theorem roleStep_of_change (hOrdinary : Ordinary incoming before)
    (hAllowed : change.Allowed incoming.env.now before incoming.sender)
    (hRequested : requestedChange incoming.env incoming.sender before incoming.request = change)
    (roleId : UInt32) :
    RoleStep incoming before (change.apply incoming.sender before) roleId := by
  cases hOld : findRole before.roles roleId with
  | none =>
    cases hNew : findRole (change.apply incoming.sender before).roles roleId with
    | none => exact .inl (hNew.trans hOld.symm)
    | some role =>
      rcases role_of_apply hNew with hSame | ⟨rfl, rfl, _⟩ | ⟨_, old, _, hFound, _⟩
      · rw [hOld] at hSame
        cases hSame
      · exact .inr (.inl ⟨role, hOld, hNew, hAllowed.2.2⟩)
      · rw [hOld] at hFound
        cases hFound
  | some old =>
    rcases role_after_apply incoming.sender change hOld with hSame | ⟨edit, rfl⟩ | rfl
    · exact .inl (hSame.trans hOld.symm)
    · obtain ⟨_, role, hFound, hBelow⟩ := hAllowed
      rw [hOld] at hFound
      cases hFound
      rw [hOrdinary.2] at hBelow
      refine .inr (.inr ⟨old, hOld, hBelow.resolve_right Bool.false_ne_true, .inr ⟨edit, ?_, ?_⟩⟩)
      · exact request_of_editRole hRequested
      · simp only [Change.apply, findRole_update, if_true, hOld, Option.map_some]
    · obtain ⟨_, _, hBelow⟩ := hAllowed
      rw [rolePosition, hOld] at hBelow
      refine .inr (.inr ⟨old, hOld, hBelow, .inl ?_⟩)
      simp only [Change.apply, findRole_remove, if_true]

theorem newRolePosition_lt {sender : String} {community : HostedCommunity} {floor : Position}
    (hSender : highestRolePosition community sender ≤ floor) (hFloor : Position.one < floor) :
    newRolePosition sender community < floor := by
  apply max_lt _ hFloor
  have hRank : (highestRolePosition community sender).val ≤ floor.val := hSender
  have hOne : (1 : Int) < floor.val := hFloor
  have hPred : max ((highestRolePosition community sender).val - 1) (-2147483648) < floor.val := by
    omega
  exact hPred

theorem rankStep_of_change (hOrdinary : Ordinary incoming before)
    (hAllowed : change.Allowed incoming.env.now before incoming.sender)
    (hRequested : requestedChange incoming.env incoming.sender before incoming.request = change)
    {pseudonym : String} {after : HostedCommunity} (hAfter : after = change.apply incoming.sender before)
    (hSome : Position.none < highestRolePosition after pseudonym)
    (hRaised : highestRolePosition before pseudonym < highestRolePosition after pseudonym)
    (hHigh : highestRolePosition before incoming.sender ≤ highestRolePosition after pseudonym) :
    RankStep incoming before after pseudonym := by
  obtain ⟨roleId, role, ⟨member, hMember, hHeld⟩, hRole, hFloor⟩ :=
    (le_highestRolePosition_iff hSome).mp le_rfl
  have hRank : highestRolePosition after pseudonym = role.position :=
    le_antisymm hFloor ((le_highestRolePosition_iff (hSome.trans_le hFloor)).mpr
      ⟨roleId, role, ⟨member, hMember, hHeld⟩, hRole, le_rfl⟩)
  subst hAfter
  cases hOld : findMember before.members pseudonym with
  | none =>
    obtain ⟨rfl, displayName, joinedAt, routeBlob, rfl, rfl⟩ := findMember_apply_of_none hOld hMember
    obtain ⟨claimed, hJoin⟩ := request_of_join hRequested
    exact .inl ⟨claimed, displayName, routeBlob, hJoin, rfl, hOld, roleId, hHeld, role, hRole,
      hRank.symm⟩
  | some old =>
    rw [findMember_apply_of_some hOld] at hMember
    rcases mem_roleIds_of_onMember hMember hHeld with hBefore | rfl
    · have hLow : ¬highestRolePosition _ pseudonym ≤ highestRolePosition before pseudonym :=
        not_le.mpr hRaised
      rcases role_of_apply hRole with hSame | ⟨rfl, rfl, hNone⟩ | ⟨edit, was, rfl, hFound, rfl⟩
      · exact (hLow ((le_highestRolePosition_iff hSome).mpr
          ⟨roleId, role, ⟨old, hOld, hBefore⟩, hSame, hFloor⟩)).elim
      · obtain ⟨_, _, hPosition⟩ := hAllowed
        rw [hRank, hPosition] at hHigh
        have hSender : highestRolePosition before incoming.sender ≤ Position.one := by
          by_contra hAbove
          exact not_lt.mpr hHigh (newRolePosition_lt le_rfl (not_le.mp hAbove))
        have hOne : newRolePosition incoming.sender before = Position.one :=
          max_eq_right ((Position.pred_le _).trans hSender)
        obtain ⟨_, _, hRequest⟩ := request_of_createRole hRequested
        exact .inr (.inl ⟨hSender, by rw [hRank, hPosition, hOne], _, _, _, _, _, hRequest⟩)
      · refine .inr (.inr ⟨roleId, edit, (edit.apply was).position, request_of_editRole hRequested, ?_⟩)
        cases hPosition : edit.position with
        | some position => rw [RoleEdit.apply, hPosition, Option.getD_some]
        | none =>
          obtain ⟨_, found, hBefore, hBelow⟩ := hAllowed
          rw [hFound] at hBefore
          cases hBefore
          rw [hOrdinary.2] at hBelow
          have hKept : (edit.apply was).position = was.position := by
            rw [RoleEdit.apply, hPosition, Option.getD_none]
          rw [hRank, hKept] at hHigh
          exact absurd (hBelow.resolve_right Bool.false_ne_true) (not_lt.mpr hHigh)
    · obtain ⟨_, _, hBelow⟩ := hAllowed
      have hFound : findRole before.roles roleId = some role := hRole
      rw [rolePosition, hFound] at hBelow
      rw [hRank] at hHigh
      exact absurd hBelow (not_lt.mpr hHigh)

theorem memberStep_of_change (hOrdinary : Ordinary incoming before)
    (hAllowed : change.Allowed incoming.env.now before incoming.sender)
    (hRequested : requestedChange incoming.env incoming.sender before incoming.request = change)
    (pseudonym : String) :
    MemberStep incoming before (change.apply incoming.sender before) pseudonym := by
  intro member hMember
  rw [findMember_apply_of_some hMember]
  cases hAfter : change.onMember incoming.sender pseudonym member with
  | none =>
    rcases onMember_eq_none member hAfter with rfl | ⟨rfl, hSelf⟩
    · exact .inl ((outranks_iff hOrdinary.1 _).mp hAllowed.2)
    · exact .inr (.inl ⟨request_of_leave hRequested, hSelf⟩)
  | some same =>
    rcases timeout_onMember hAfter with hKept | rfl
    · exact .inr (.inr ⟨same, rfl, .inl hKept⟩)
    · rcases hAllowed.2 with hLifted | hOutranks
      · exact .inr (.inr ⟨same, rfl, .inr hLifted⟩)
      · exact .inl ((outranks_iff hOrdinary.1 _).mp hOutranks)

theorem keepsHierarchy_of_same (hSame : SameAuthority after before) :
    KeepsHierarchy incoming before after where
  roles roleId := .inl (by rw [hSame.roles])
  ranks pseudonym _ hRaised _ := by
    rw [hSame.highestRolePosition_eq] at hRaised
    exact absurd hRaised (lt_irrefl _)
  members pseudonym member hMember := by
    refine .inr (.inr ⟨member, ?_, .inl rfl⟩)
    rw [hSame.members]
    exact hMember

theorem KeepsHierarchy.congr {other : HostedCommunity} (h : KeepsHierarchy incoming before other)
    (hSame : SameAuthority after other) : KeepsHierarchy incoming before after where
  roles := by
    intro roleId
    unfold RoleStep
    rw [hSame.roles]
    exact h.roles roleId
  ranks := by
    intro pseudonym
    unfold RankStep
    rw [hSame.highestRolePosition_eq]
    exact h.ranks pseudonym
  members := by
    intro pseudonym
    unfold MemberStep
    rw [hSame.members]
    exact h.members pseudonym

theorem keepsHierarchy_of_changed
    (hChanged : Changed incoming.env incoming.sender incoming.request before after)
    (hOrdinary : Ordinary incoming before) : KeepsHierarchy incoming before after := by
  rcases hChanged with hSame | ⟨change, hRequested, hAllowed, hSame⟩
  · exact keepsHierarchy_of_same hSame
  · have hApplied : KeepsHierarchy incoming before (change.apply incoming.sender before) :=
      { roles := roleStep_of_change hOrdinary hAllowed hRequested.symm
        ranks := fun _ => rankStep_of_change hOrdinary hAllowed hRequested.symm rfl
        members := memberStep_of_change hOrdinary hAllowed hRequested.symm }
    exact hApplied.congr hSame

end

/-! ## Runs of ordinary senders -/

/-- No EditRole that moves a position, and no join into an empty roster. -/
def Restrained (request : CommunityRequest) (before : HostedCommunity) : Prop :=
  (∀ roleId edit, request = .member (.editRole roleId edit) → edit.position = none) ∧
    ∀ claimed displayName routeBlob, request = .join claimed displayName routeBlob →
      before.members.isEmpty = false

/-- The run is sent by ordinary members that start at or below the floor. -/
structure RunBelow (communityId : String) (state : ServerState) (run : List IncomingRequest)
    (start : HostedCommunity) (floor : Position) : Prop where
  hosted : state.hosted.lookup communityId = some start
  aboveOne : Position.one < floor
  defaults : ∀ roleId ∈ defaultRoleIds false, ∀ role, findRole start.roles roleId = some role →
    role.position < floor
  senders : ∀ incoming ∈ run, highestRolePosition start incoming.sender ≤ floor
  steps : Along serve (InCommunity communityId fun incoming before _ =>
    Ordinary incoming before ∧ Restrained incoming.request before) state run

/-- Roles at or above the floor are the same, held by no one new and still by the target. -/
structure Shielded (start : HostedCommunity) (floor : Position) (target : String)
    (current : HostedCommunity) : Prop where
  roles : ∀ roleId role, floor ≤ role.position →
    (findRole current.roles roleId = some role ↔ findRole start.roles roleId = some role)
  held : ∀ pseudonym roleId role, floor ≤ role.position → findRole start.roles roleId = some role →
    Holds current pseudonym roleId → Holds start pseudonym roleId
  keeps : ∀ roleId role, floor ≤ role.position → findRole start.roles roleId = some role →
    Holds start target roleId → Holds current target roleId
  timeout : ∃ member same, findMember start.members target = some member ∧
    findMember current.members target = some same ∧
    (same.timeoutUntil = member.timeoutUntil ∨ same.timeoutUntil = none)

section
variable {start current after : HostedCommunity} {floor : Position} {target : String}
variable {incoming : IncomingRequest}

theorem Shielded.sender_le (h : Shielded start floor target current) {sender : String}
    (hFloor : Position.one < floor) (hSender : highestRolePosition start sender ≤ floor) :
    highestRolePosition current sender ≤ floor := by
  have hNone : Position.none ≤ floor := (show Position.none ≤ Position.one by decide).trans hFloor.le
  by_contra hAbove
  obtain ⟨roleId, role, hHolds, hRole, hPosition⟩ :=
    (lt_highestRolePosition_iff hNone).mp (not_le.mp hAbove)
  have hStart := (h.roles roleId role hPosition.le).mp hRole
  have hHeld := h.held sender roleId role hPosition.le hStart hHolds
  exact not_lt.mpr hSender
    ((lt_highestRolePosition_iff hNone).mpr ⟨roleId, role, hHeld, hStart, hPosition⟩)

theorem Shielded.le_target (h : Shielded start floor target current) (hFloor : Position.one < floor)
    (hTarget : floor ≤ highestRolePosition start target) :
    floor ≤ highestRolePosition current target := by
  have hNone : Position.none < floor := (show Position.none < Position.one by decide).trans hFloor
  obtain ⟨roleId, role, hHolds, hRole, hPosition⟩ := (le_highestRolePosition_iff hNone).mp hTarget
  exact (le_highestRolePosition_iff hNone).mpr ⟨roleId, role,
    h.keeps roleId role hPosition hRole hHolds, (h.roles roleId role hPosition).mpr hRole, hPosition⟩

theorem SameAuthority.holds_iff {first second : HostedCommunity} (h : SameAuthority first second)
    (pseudonym : String) (roleId : UInt32) :
    Holds first pseudonym roleId ↔ Holds second pseudonym roleId := by
  unfold Holds
  rw [h.members]

/-- A role at or above a sender's rank is moved by no restrained request of that sender. -/
theorem role_at_floor_iff (hStep : ∀ roleId, RoleStep incoming current after roleId)
    (hRestrained : Restrained incoming.request current) (hFloor : Position.one < floor)
    (hSender : highestRolePosition current incoming.sender ≤ floor) {roleId : UInt32}
    {role : RoleDefinition} (hPosition : floor ≤ role.position) :
    findRole after.roles roleId = some role ↔ findRole current.roles roleId = some role := by
  rcases hStep roleId with hSame | ⟨created, hNone, hNew, hAt⟩ | ⟨old, hOld, hBelow, hAfter⟩
  · rw [hSame]
  · have hLow : created.position < floor := hAt ▸ newRolePosition_lt hSender hFloor
    rw [hNone, hNew]
    constructor
    · intro hEq
      cases hEq
      exact absurd hLow (not_lt.mpr hPosition)
    · intro hEq
      cases hEq
  · have hLow : old.position < floor := hBelow.trans_le hSender
    constructor
    · intro hRole
      rcases hAfter with hGone | ⟨edit, hRequest, hEdited⟩
      · rw [hGone] at hRole
        cases hRole
      · rw [hEdited] at hRole
        cases hRole
        have hKept : (edit.apply old).position = old.position := by
          rw [RoleEdit.apply, hRestrained.1 roleId edit hRequest, Option.getD_none]
        rw [hKept] at hPosition
        exact absurd hLow (not_lt.mpr hPosition)
    · intro hRole
      rw [hOld] at hRole
      cases hRole
      exact absurd hLow (not_lt.mpr hPosition)

theorem held_at_floor
    (hChanged : Changed incoming.env incoming.sender incoming.request current after)
    (hRestrained : Restrained incoming.request current)
    (hSender : highestRolePosition current incoming.sender ≤ floor)
    {pseudonym : String} {roleId : UInt32} {role : RoleDefinition}
    (hRole : findRole current.roles roleId = some role) (hPosition : floor ≤ role.position)
    (hDefault : roleId ∉ defaultRoleIds false) (hHeld : Holds after pseudonym roleId) :
    Holds current pseudonym roleId := by
  rcases hChanged with hSame | ⟨change, hRequested, hAllowed, hSame⟩
  · exact (hSame.holds_iff pseudonym roleId).mp hHeld
  · obtain ⟨member, hMember, hIn⟩ := (hSame.holds_iff pseudonym roleId).mp hHeld
    cases hOld : findMember current.members pseudonym with
    | none =>
      obtain ⟨_, displayName, joinedAt, routeBlob, rfl, rfl⟩ := findMember_apply_of_none hOld hMember
      obtain ⟨claimed, hJoin⟩ := request_of_join hRequested.symm
      rw [newMember, hRestrained.2 claimed displayName routeBlob hJoin] at hIn
      exact absurd hIn hDefault
    | some old =>
      rw [findMember_apply_of_some hOld] at hMember
      rcases mem_roleIds_of_onMember hMember hIn with hBefore | rfl
      · exact ⟨old, hOld, hBefore⟩
      · obtain ⟨_, _, hBelow⟩ := hAllowed
        rw [rolePosition, hRole] at hBelow
        exact absurd (hBelow.trans_le hSender) (not_lt.mpr hPosition)

theorem kept_at_floor
    (hChanged : Changed incoming.env incoming.sender incoming.request current after)
    (hOrdinary : Ordinary incoming current)
    (hSender : highestRolePosition current incoming.sender ≤ floor)
    (hTarget : floor ≤ highestRolePosition current target)
    (hStays : incoming.request = .member .leave → incoming.sender ≠ target)
    {roleId : UInt32} {role : RoleDefinition} (hRole : findRole current.roles roleId = some role)
    (hPosition : floor ≤ role.position) (hHeld : Holds current target roleId) :
    Holds after target roleId := by
  have hSafe : ¬Outranks current incoming.sender target := by
    rw [outranks_iff hOrdinary.1]
    exact not_lt.mpr (hSender.trans hTarget)
  rcases hChanged with hSame | ⟨change, hRequested, hAllowed, hSame⟩
  · exact (hSame.holds_iff target roleId).mpr hHeld
  · obtain ⟨member, hMember, hIn⟩ := hHeld
    rw [hSame.holds_iff]
    cases hAfter : change.onMember incoming.sender target member with
    | none =>
      rcases onMember_eq_none member hAfter with rfl | ⟨rfl, hSelf⟩
      · exact absurd hAllowed.2 hSafe
      · exact absurd hSelf.symm (hStays (request_of_leave hRequested.symm))
    | some same =>
      have hFound := (findMember_apply_of_some hMember).trans hAfter
      rcases mem_roleIds_onMember hAfter hIn with hKept | rfl | rfl
      · exact ⟨same, hFound, hKept⟩
      · obtain ⟨_, _, hBelow⟩ := hAllowed
        rw [rolePosition, hRole] at hBelow
        exact absurd (hBelow.trans_le hSender) (not_lt.mpr hPosition)
      · exact absurd hAllowed.2.2 hSafe

theorem Shielded.step (h : Shielded start floor target current) (hFloor : Position.one < floor)
    (hDefaults : ∀ roleId ∈ defaultRoleIds false, ∀ role, findRole start.roles roleId = some role →
      role.position < floor)
    (hTarget : floor ≤ highestRolePosition start target)
    (hSender : highestRolePosition start incoming.sender ≤ floor)
    (hChanged : Changed incoming.env incoming.sender incoming.request current after)
    (hOrdinary : Ordinary incoming current) (hRestrained : Restrained incoming.request current)
    (hStays : incoming.request = .member .leave → incoming.sender ≠ target) :
    Shielded start floor target after := by
  have hKeeps := keepsHierarchy_of_changed hChanged hOrdinary
  have hLow := h.sender_le hFloor hSender
  have hHigh := h.le_target hFloor hTarget
  refine ⟨?_, ?_, ?_, ?_⟩
  · intro roleId role hPosition
    rw [role_at_floor_iff hKeeps.roles hRestrained hFloor hLow hPosition]
    exact h.roles roleId role hPosition
  · intro pseudonym roleId role hPosition hRole hHeld
    have hCurrent := (h.roles roleId role hPosition).mpr hRole
    have hDefault : roleId ∉ defaultRoleIds false := fun hIn =>
      not_lt.mpr hPosition (hDefaults roleId hIn role hRole)
    exact h.held pseudonym roleId role hPosition hRole
      (held_at_floor hChanged hRestrained hLow hCurrent hPosition hDefault hHeld)
  · intro roleId role hPosition hRole hHeld
    have hCurrent := (h.roles roleId role hPosition).mpr hRole
    exact kept_at_floor hChanged hOrdinary hLow hHigh hStays hCurrent hPosition
      (h.keeps roleId role hPosition hRole hHeld)
  · obtain ⟨member, same, hMember, hSame, hTimeout⟩ := h.timeout
    rcases hKeeps.members target same hSame with hBelow | ⟨hLeave, hSelf⟩ | ⟨later, hLater, hKept⟩
    · exact absurd hBelow (not_lt.mpr (hLow.trans hHigh))
    · exact absurd hSelf.symm (hStays hLeave)
    · refine ⟨member, later, hMember, hLater, ?_⟩
      rcases hKept with hEq | hNone
      · rwa [hEq]
      · exact .inr hNone

theorem Shielded.refl (hFloor : Position.one < floor)
    (hTarget : floor ≤ highestRolePosition start target) : Shielded start floor target start := by
  have hNone : Position.none < floor := (show Position.none < Position.one by decide).trans hFloor
  obtain ⟨roleId, role, ⟨member, hMember, _⟩, _⟩ := (le_highestRolePosition_iff hNone).mp hTarget
  exact ⟨fun _ _ _ => Iff.rfl, fun _ _ _ _ _ hHeld => hHeld, fun _ _ _ _ hHeld => hHeld,
    member, member, hMember, hMember, .inl rfl⟩

end

/-- The target is still a member of at least its floor, not newly timed out or banned, and the
roles from the floor up are the same. -/
def Unharmed (communityId : String) (state final : ServerState) (start : HostedCommunity)
    (floor : Position) (target : String) : Prop :=
  ∃ after, final.hosted.lookup communityId = some after ∧
    floor ≤ highestRolePosition after target ∧
    (∃ member same, findMember start.members target = some member ∧
      findMember after.members target = some same ∧
      (same.timeoutUntil = member.timeoutUntil ∨ same.timeoutUntil = none)) ∧
    (∀ row ∈ final.db.bannedMembers, row.communityId = communityId → row.pseudonymKeyHex = target →
      row ∈ state.db.bannedMembers) ∧
    ∀ roleId role, floor ≤ role.position →
      (findRole after.roles roleId = some role ↔ findRole start.roles roleId = some role)

theorem unharmed_of_runBelow {communityId : String} {state : ServerState}
    {run : List IncomingRequest} {start : HostedCommunity} {floor : Position} {target : String}
    (hRun : RunBelow communityId state run start floor)
    (hTarget : floor ≤ highestRolePosition start target)
    (hStays : ∀ incoming ∈ run, incoming.request = .member .leave → incoming.sender ≠ target) :
    Unharmed communityId state (final serve state run) start floor target := by
  let Inv (reached : ServerState) : Prop := ∃ current,
    reached.hosted.lookup communityId = some current ∧ Shielded start floor target current ∧
    ∀ row ∈ reached.db.bannedMembers, row.communityId = communityId →
      row.pseudonymKeyHex = target → row ∈ state.db.bannedMembers
  have hFinal : Inv (final serve state run) := by
    refine Along.invariant Inv ?_ ⟨start, hRun.hosted, Shielded.refl hRun.aboveOne hTarget,
      fun _ hRow _ _ => hRow⟩ (hRun.steps.and (Along.of_mem (fun incoming hIn =>
        And.intro (hRun.senders incoming hIn) (hStays incoming hIn)) state))
    rintro reached incoming ⟨current, hCurrent, hShielded, hBans⟩ ⟨hStep, hSender, hStay⟩
    obtain ⟨after, hAfter, hChanged⟩ := serve_changed reached incoming hCurrent
    obtain ⟨hOrdinary, hRestrained⟩ := hStep current after hCurrent hAfter
    refine ⟨after, hAfter, ?_, fun row hRow hCommunity hPseudonym => ?_⟩
    · exact hShielded.step hRun.aboveOne hRun.defaults hTarget hSender hChanged hOrdinary
        hRestrained hStay
    · rcases serve_bans reached incoming hCurrent hRow hCommunity with hOld | ⟨_, _, hOutranks⟩
      · exact hBans row hOld hCommunity hPseudonym
      · rw [outranks_iff hOrdinary.1, hPseudonym] at hOutranks
        have hLow := hShielded.sender_le hRun.aboveOne hSender
        have hHigh := hShielded.le_target hRun.aboveOne hTarget
        exact absurd hOutranks (not_lt.mpr (hLow.trans hHigh))
  obtain ⟨current, hCurrent, hShielded, hBans⟩ := hFinal
  exact ⟨current, hCurrent, hShielded.le_target hRun.aboveOne hTarget, hShielded.timeout, hBans,
    hShielded.roles⟩

/-- Requests of ordinary senders keep the hierarchy; and along runs of such requests, without a
moved position, a member that starts at or above all senders comes to no harm. -/
theorem hierarchy_kept (communityId : String) (state : ServerState) (run : List IncomingRequest) :
    Along serve (InCommunity communityId fun incoming before after =>
        Ordinary incoming before → KeepsHierarchy incoming before after) state run ∧
      ∀ start floor target, RunBelow communityId state run start floor →
        floor ≤ highestRolePosition start target →
        (∀ incoming ∈ run, incoming.request = .member .leave → incoming.sender ≠ target) →
        Unharmed communityId state (final serve state run) start floor target := by
  constructor
  · apply Along.of_forall
    apply inCommunity_of_changed
    intro incoming before after hChanged hOrdinary
    exact keepsHierarchy_of_changed hChanged hOrdinary
  · intro start floor target hRun hTarget hStays
    exact unharmed_of_runBelow hRun hTarget hStays

/-! ## Samples -/

/-- Bob, an Admin, creates a role, assigns it, and tries to kick the creator, who outranks him. -/
def adminRun : List IncomingRequest :=
  [createRootRole, assignRootRole, sampleRequest "bob" (.member (.kick "alice"))]

theorem creator_unharmed : ∃ start,
    Unharmed "c" sampleCommunityState (final serve sampleCommunityState adminRun) start
      ⟨3, by decide⟩ "alice" := by
  have hStart : inSample sampleCommunityState (fun community =>
      decide (highestRolePosition community "bob" ≤ ⟨3, by decide⟩) &&
      decide (⟨3, by decide⟩ ≤ highestRolePosition community "alice") &&
      ((defaultRoleIds false).all fun roleId => (findRole community.roles roleId).all fun role =>
        decide (role.position < ⟨3, by decide⟩))) = true := by decide +kernel
  have hOrdinary (incoming : IncomingRequest) (hBob : incoming.sender = "bob")
      (hNow : incoming.env = sampleEnvironment) {state : ServerState} {before : HostedCommunity}
      (hTest : inSample state (fun community => !isCreator community "bob" &&
        !isAdministrator (memberBasePermissions sampleEnvironment.now community "bob")) = true)
      (hBefore : state.hosted.lookup "c" = some before) : Ordinary incoming before := by
    have hBoth := test_of_inSample hTest hBefore
    rw [Bool.and_eq_true, Bool.not_eq_true', Bool.not_eq_true'] at hBoth
    unfold Ordinary
    rwa [hBob, hNow]
  obtain ⟨start, hHosted⟩ := exists_of_inSample hStart
  have hRanks := test_of_inSample hStart hHosted
  simp only [Bool.and_eq_true, decide_eq_true_eq, List.all_eq_true, Option.all_eq_true] at hRanks
  obtain ⟨⟨hBob, hAlice⟩, hDefaults⟩ := hRanks
  refine ⟨start, (hierarchy_kept "c" sampleCommunityState adminRun).2 start ⟨3, by decide⟩ "alice"
    ⟨hHosted, by decide, hDefaults, ?_, ?_⟩ hAlice ?_⟩
  · intro incoming hIn
    simp only [adminRun, List.mem_cons, List.not_mem_nil, or_false] at hIn
    rcases hIn with rfl | rfl | rfl <;> exact hBob
  · refine ⟨fun before _ hBefore _ => ⟨hOrdinary _ rfl rfl (by decide +kernel) hBefore, ?_⟩,
      fun before _ hBefore _ => ⟨hOrdinary _ rfl rfl (by decide +kernel) hBefore, ?_⟩,
      fun before _ hBefore _ => ⟨hOrdinary _ rfl rfl (by decide +kernel) hBefore, ?_⟩, trivial⟩
    all_goals exact ⟨fun _ _ h => (by cases h), fun _ _ _ h => (by cases h)⟩
  · intro incoming hIn
    simp only [adminRun, List.mem_cons, List.not_mem_nil, or_false] at hIn
    rcases hIn with rfl | rfl | rfl <;> intro h <;> cases h

/-- Roles at or above an ordinary sender stay, and nobody is raised to the sender's rank. -/
def StrictHierarchy (incoming : IncomingRequest) (before after : HostedCommunity) : Prop :=
  Ordinary incoming before →
    (∀ roleId role, findRole after.roles roleId ≠ findRole before.roles roleId →
      findRole before.roles roleId = some role ∨ findRole after.roles roleId = some role →
      role.position < highestRolePosition before incoming.sender) ∧
    ∀ pseudonym, highestRolePosition before pseudonym < highestRolePosition after pseudonym →
      highestRolePosition after pseudonym < highestRolePosition before incoming.sender

/-- Alice lets every Member manage roles. -/
def membersManageRoles : IncomingRequest :=
  sampleRequest "alice" (.member (.editRole 1
    { name := none, color := none, permissions := some (memberPermissions ||| manageRoles)
      position := none, hoist := none, mentionable := none }))

def lowStateEvents : List ServerEvent := sampleCommunityEvents ++ [.request membersManageRoles]

def lowState : ServerState := final handleEvent (ServerState.initial []) lowStateEvents

/-- Carol, of rank 1, creates a role: its position is 1, the least for a new role. -/
def createAtOwnRank : IncomingRequest :=
  sampleRequest "carol" (.member (.createRole "peer" 0 0 false false))

theorem role_at_own_rank_created :
    ¬∀ state, Reachable state → ∀ communityId run,
      Along serve (InCommunity communityId StrictHierarchy) state run := by
  intro hClaim
  obtain ⟨hStep, _⟩ := hClaim lowState ⟨[], lowStateEvents, rfl⟩ "c" [createAtOwnRank]
  have hLow : inSample lowState (fun community => !isCreator community "carol" &&
      !isAdministrator (memberBasePermissions sampleEnvironment.now community "carol") &&
      decide (highestRolePosition community "carol" = Position.one) &&
      (findRole community.roles 5).isNone) = true := by decide +kernel
  have hCreated : inSample (serve lowState createAtOwnRank) (fun community =>
      (findRole community.roles 5).any fun role => decide (role.position = Position.one)) = true := by
    decide +kernel
  obtain ⟨before, hBefore⟩ := exists_of_inSample hLow
  obtain ⟨after, hAfter⟩ := exists_of_inSample hCreated
  have hTests := test_of_inSample hLow hBefore
  simp only [Bool.and_eq_true, Bool.not_eq_true', decide_eq_true_eq, Option.isNone_iff_eq_none] at hTests
  obtain ⟨⟨⟨hNotCreator, hNotAdmin⟩, hRank⟩, hNone⟩ := hTests
  have hNew := test_of_inSample hCreated hAfter
  cases hRole : findRole after.roles 5 with
  | none =>
    rw [hRole] at hNew
    cases hNew
  | some role =>
    rw [hRole, Option.any_some, decide_eq_true_eq] at hNew
    have hBelow := (hStep before after hBefore hAfter ⟨hNotCreator, hNotAdmin⟩).1 5 role
      (by rw [hRole, hNone]; exact Option.some_ne_none role) (.inr hRole)
    have hSame : highestRolePosition before createAtOwnRank.sender = Position.one := hRank
    rw [hNew, hSame] at hBelow
    exact lt_irrefl _ hBelow

end Rekindle.Server
