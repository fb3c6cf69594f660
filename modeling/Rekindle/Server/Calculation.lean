import Mathlib.Data.List.Perm.Basic
import Rekindle.Server.Holdings

/-! # The permission calculation, bit by bit

Each overwrite allows, denies or leaves a bit; the steps that apply to a member decide it in turn.
-/
namespace Rekindle.Server
set_option autoImplicit false

section
variable {permissions required : Permissions} {bit : Nat}

theorem and_flag_eq_zero_iff (hBit : bit < 64) : permissions &&& flag bit = 0 ↔ permissions.getLsbD bit = false := by
  have hFlag : flag bit = BitVec.twoPow 64 bit := rfl
  rw [hFlag, BitVec.and_twoPow]
  cases hSet : permissions.getLsbD bit with
  | false => simp
  | true =>
    have hOne : (BitVec.twoPow 64 bit).getLsbD bit = true := by simp [hBit]
    simp only [if_true, Bool.true_eq_false, iff_false]
    intro hZero
    rw [hZero] at hOne
    simp at hOne

theorem isAdministrator_iff : isAdministrator permissions = true ↔ permissions.getLsbD 3 = true := by
  have hZero : permissions &&& administrator = 0 ↔ permissions.getLsbD 3 = false := and_flag_eq_zero_iff (by decide)
  rw [isAdministrator, bne_iff_ne, Ne, hZero, Bool.not_eq_false]

theorem and_eq_right_iff : permissions &&& required = required ↔
    ∀ bit, required.getLsbD bit = true → permissions.getLsbD bit = true := by
  constructor
  · intro hAnd bit hRequired
    rw [← hAnd, BitVec.getLsbD_and] at hRequired
    exact (Bool.and_eq_true_iff.mp hRequired).1
  · intro hAll
    apply BitVec.eq_of_getLsbD_eq
    intro bit _
    rw [BitVec.getLsbD_and]
    cases hRequired : required.getLsbD bit with
    | false => simp
    | true => simp [hAll bit hRequired]

theorem hasPermission_iff : hasPermission permissions required = true ↔
    permissions.getLsbD 3 = true ∨ ∀ bit, required.getLsbD bit = true → permissions.getLsbD bit = true := by
  change (if isAdministrator permissions then true else permissions &&& required == required) = true ↔ _
  rw [← and_eq_right_iff, ← isAdministrator_iff]
  cases isAdministrator permissions <;> simp

theorem hasPermission_flag_iff (hBit : bit < 64) : hasPermission permissions (flag bit) = true ↔
    permissions.getLsbD 3 = true ∨ permissions.getLsbD bit = true := by
  have hFlag : flag bit = BitVec.twoPow 64 bit := rfl
  rw [hasPermission_iff, hFlag]
  simp only [BitVec.getLsbD_twoPow, hBit, decide_true, Bool.true_and, decide_eq_true_eq]
  constructor
  · exact Or.imp_right fun hAll => hAll bit rfl
  · rintro (hAdministrator | hSet)
    · exact .inl hAdministrator
    · exact .inr fun _ hSame => hSame ▸ hSet

end

/-! ## Overwrites -/

def PermissionOverwrite.verdict (overwrite : PermissionOverwrite) (bit : Nat) : Option Bool :=
  if overwrite.allow.getLsbD bit then some true
  else if overwrite.deny.getLsbD bit then some false
  else none

/-- The last overwrite that says something about the bit. -/
def lastSays : List PermissionOverwrite → Nat → Option Bool
  | [], _ => none
  | overwrite :: rest, bit => (lastSays rest bit).or (overwrite.verdict bit)

def everyoneOverwrites (overwrites : List PermissionOverwrite) : List PermissionOverwrite :=
  overwrites.filter fun o => o.targetType == .role && o.targetId == "0"

def heldOverwrites (memberRoleIds : List UInt32) (overwrites : List PermissionOverwrite) : List PermissionOverwrite :=
  overwrites.filter (PermissionOverwrite.forHeldRole memberRoleIds)

def ownOverwrites (memberPseudonym : String) (overwrites : List PermissionOverwrite) : List PermissionOverwrite :=
  overwrites.filter fun o => o.targetType == .member && o.targetId == memberPseudonym

/-- The roles of a member speak together, and allow rather than deny. -/
def rolesSay (held : List PermissionOverwrite) (bit : Nat) : Option Bool :=
  if held.any fun o => o.allow.getLsbD bit then some true
  else if held.any fun o => o.deny.getLsbD bit then some false
  else none

/-- What the overwrites of a channel say about a bit of a member, if anything. -/
def overwritten (memberRoleIds : List UInt32) (overwrites : List PermissionOverwrite) (memberPseudonym : String)
    (bit : Nat) : Option Bool :=
  (lastSays (ownOverwrites memberPseudonym overwrites) bit).or
    ((rolesSay (heldOverwrites memberRoleIds overwrites) bit).or (lastSays (everyoneOverwrites overwrites) bit))

section
variable {permissions : Permissions} {overwrites : List PermissionOverwrite} {bit : Nat}

theorem getLsbD_apply (overwrite : PermissionOverwrite) :
    (overwrite.apply permissions).getLsbD bit = (overwrite.verdict bit).getD (permissions.getLsbD bit) := by
  rw [PermissionOverwrite.apply, PermissionOverwrite.verdict, BitVec.getLsbD_or, BitVec.getLsbD_and, BitVec.getLsbD_not]
  cases overwrite.allow.getLsbD bit with
  | true => simp
  | false =>
    cases overwrite.deny.getLsbD bit with
    | true => simp
    | false =>
      have hBit : permissions.getLsbD bit = true → bit < 64 := BitVec.lt_of_getLsbD
      cases hSet : permissions.getLsbD bit with
      | false => simp
      | true => simp [hBit hSet]

theorem getLsbD_foldl_apply (overwrites : List PermissionOverwrite) :
    (overwrites.foldl PermissionOverwrite.apply permissions).getLsbD bit =
      (lastSays overwrites bit).getD (permissions.getLsbD bit) := by
  induction overwrites generalizing permissions with
  | nil => rfl
  | cons overwrite rest ih =>
    rw [List.foldl_cons, ih, getLsbD_apply, lastSays]
    cases lastSays rest bit <;> rfl

theorem getLsbD_foldl_mask (read : PermissionOverwrite → Permissions) (overwrites : List PermissionOverwrite)
    (start : Permissions) : (overwrites.foldl (fun acc o => acc ||| read o) start).getLsbD bit =
      (start.getLsbD bit || overwrites.any fun o => (read o).getLsbD bit) := by
  induction overwrites generalizing start with
  | nil => simp
  | cons overwrite rest ih => rw [List.foldl_cons, ih, BitVec.getLsbD_or, List.any_cons, Bool.or_assoc]

theorem getLsbD_roles (held : List PermissionOverwrite) :
    (permissions &&& ~~~(held.foldl (fun acc o => acc ||| o.deny) 0) |||
      held.foldl (fun acc o => acc ||| o.allow) 0).getLsbD bit = (rolesSay held bit).getD (permissions.getLsbD bit) := by
  rw [BitVec.getLsbD_or, BitVec.getLsbD_and, BitVec.getLsbD_not, getLsbD_foldl_mask, getLsbD_foldl_mask, rolesSay]
  cases held.any fun o => o.allow.getLsbD bit with
  | true => simp
  | false =>
    cases held.any fun o => o.deny.getLsbD bit with
    | true => simp
    | false =>
      have hBit : permissions.getLsbD bit = true → bit < 64 := BitVec.lt_of_getLsbD
      cases hSet : permissions.getLsbD bit with
      | false => simp
      | true => simp [hBit hSet]

theorem getLsbD_applyOverwrites (memberRoleIds : List UInt32) (overwrites : List PermissionOverwrite)
    (memberPseudonym : String) :
    (applyOverwrites memberRoleIds overwrites memberPseudonym permissions).getLsbD bit =
      (overwritten memberRoleIds overwrites memberPseudonym bit).getD (permissions.getLsbD bit) := by
  change ((ownOverwrites memberPseudonym overwrites).foldl PermissionOverwrite.apply _).getLsbD bit = _
  rw [getLsbD_foldl_apply]
  change (lastSays (ownOverwrites memberPseudonym overwrites) bit).getD
    ((((everyoneOverwrites overwrites).foldl PermissionOverwrite.apply permissions) &&&
      ~~~((heldOverwrites memberRoleIds overwrites).foldl (fun acc o => acc ||| o.deny) 0) |||
      (heldOverwrites memberRoleIds overwrites).foldl (fun acc o => acc ||| o.allow) 0).getLsbD bit) = _
  rw [getLsbD_roles, getLsbD_foldl_apply, overwritten]
  cases lastSays (ownOverwrites memberPseudonym overwrites) bit <;>
    cases rolesSay (heldOverwrites memberRoleIds overwrites) bit <;> rfl

/-- A bit that is allowed is allowed by an overwrite. -/
theorem exists_allow_of_lastSays (h : lastSays overwrites bit = some true) :
    ∃ overwrite ∈ overwrites, overwrite.allow.getLsbD bit = true := by
  induction overwrites with
  | nil => cases h
  | cons overwrite rest ih =>
    rw [lastSays] at h
    cases hRest : lastSays rest bit with
    | some said =>
      rw [hRest] at h
      obtain ⟨other, hOther, hAllow⟩ := ih (hRest.trans h)
      exact ⟨other, List.mem_cons_of_mem _ hOther, hAllow⟩
    | none =>
      rw [hRest, Option.none_or, PermissionOverwrite.verdict] at h
      cases hAllow : overwrite.allow.getLsbD bit with
      | true => exact ⟨overwrite, List.mem_cons_self, hAllow⟩
      | false =>
        rw [hAllow, if_neg Bool.false_ne_true] at h
        split at h <;> cases h

theorem exists_allow_of_overwritten {memberRoleIds : List UInt32} {memberPseudonym : String}
    (h : overwritten memberRoleIds overwrites memberPseudonym bit = some true) :
    ∃ overwrite ∈ overwrites, overwrite.allow.getLsbD bit = true := by
  rw [overwritten] at h
  cases hOwn : lastSays (ownOverwrites memberPseudonym overwrites) bit with
  | some said =>
    rw [hOwn] at h
    obtain ⟨overwrite, hMem, hAllow⟩ := exists_allow_of_lastSays (hOwn.trans h)
    exact ⟨overwrite, (List.mem_filter.mp hMem).1, hAllow⟩
  | none =>
    rw [hOwn, Option.none_or, rolesSay] at h
    split at h
    · rename_i hAny
      obtain ⟨overwrite, hMem, hAllow⟩ := List.any_eq_true.mp hAny
      exact ⟨overwrite, (List.mem_filter.mp hMem).1, hAllow⟩
    · split at h
      · cases h
      · obtain ⟨overwrite, hMem, hAllow⟩ := exists_allow_of_lastSays h
        exact ⟨overwrite, (List.mem_filter.mp hMem).1, hAllow⟩

end

/-! ## The last two steps -/

def timedOut (now : UInt64) (timeoutUntil : Option UInt64) : Bool := timeoutUntil.any fun deadline => now < deadline

/-- Step 7. -/
def silence (now : UInt64) (timeoutUntil : Option UInt64) (permissions : Permissions) : Permissions :=
  if timedOut now timeoutUntil then permissions &&& ~~~timedOutMask else permissions

/-- Step 8. -/
def hide (permissions : Permissions) : Permissions := if permissions &&& viewChannel = 0 then 0 else permissions

theorem calculatePermissions_eq (now : UInt64) (memberRoleIds : List UInt32) (allRoles : List RoleDefinition)
    (channelOverwrites : List PermissionOverwrite) (memberPseudonym : String) (timeoutUntil : Option UInt64) :
    calculatePermissions now memberRoleIds allRoles channelOverwrites memberPseudonym timeoutUntil =
      let base := basePermissions memberRoleIds allRoles
      if isAdministrator base then allPermissions
      else hide (silence now timeoutUntil (applyOverwrites memberRoleIds channelOverwrites memberPseudonym base)) := by
  cases timeoutUntil with
  | none => rfl
  | some deadline => simp [calculatePermissions, hide, silence, timedOut]

/-! ## The order of the lists -/

def overwriteTarget (overwrite : PermissionOverwrite) : OverwriteType × String :=
  (overwrite.targetType, overwrite.targetId)

section
variable {roleIds roleIds' : List UInt32} {roles roles' : List RoleDefinition}
  {overwrites overwrites' : List PermissionOverwrite}

theorem basePermissions_of_perm (hRoles : (roles.map RoleDefinition.id).Nodup) (hIds : roleIds.Perm roleIds')
    (hPerm : roles.Perm roles') : basePermissions roleIds roles = basePermissions roleIds' roles' := by
  apply BitVec.eq_of_getLsbD_eq
  intro bit _
  have hFind (roleId : UInt32) : findRole roles roleId = findRole roles' roleId := Keyed.find_of_perm hRoles hPerm
  rw [Bool.eq_iff_iff, getLsbD_basePermissions, getLsbD_basePermissions]
  simp only [hFind, hIds.mem_iff]

theorem everyoneOverwrites_of_perm (hTargets : (overwrites.map overwriteTarget).Nodup)
    (hPerm : overwrites.Perm overwrites') : everyoneOverwrites overwrites = everyoneOverwrites overwrites' := by
  apply Keyed.filter_of_perm (k := (.role, "0")) hTargets hPerm
  intro overwrite hTest
  rw [Bool.and_eq_true, beq_iff_eq, beq_iff_eq] at hTest
  exact Prod.ext hTest.1 hTest.2

theorem ownOverwrites_of_perm (memberPseudonym : String) (hTargets : (overwrites.map overwriteTarget).Nodup)
    (hPerm : overwrites.Perm overwrites') :
    ownOverwrites memberPseudonym overwrites = ownOverwrites memberPseudonym overwrites' := by
  apply Keyed.filter_of_perm (k := (.member, memberPseudonym)) hTargets hPerm
  intro overwrite hTest
  rw [Bool.and_eq_true, beq_iff_eq, beq_iff_eq] at hTest
  exact Prod.ext hTest.1 hTest.2

/-- The roles of a member speak together, so their order is of no account. -/
theorem rolesSay_of_perm {held held' : List PermissionOverwrite} (hPerm : held.Perm held') (bit : Nat) :
    rolesSay held bit = rolesSay held' bit := by
  have hAny (read : PermissionOverwrite → Permissions) :
      (held.any fun o => (read o).getLsbD bit) = held'.any fun o => (read o).getLsbD bit := by
    rw [Bool.eq_iff_iff, List.any_eq_true, List.any_eq_true]
    simp only [hPerm.mem_iff]
  rw [rolesSay, rolesSay, hAny PermissionOverwrite.allow, hAny PermissionOverwrite.deny]

theorem heldOverwrites_of_perm (hIds : roleIds.Perm roleIds') (hPerm : overwrites.Perm overwrites') :
    (heldOverwrites roleIds overwrites).Perm (heldOverwrites roleIds' overwrites') := by
  have hContains (roleId : UInt32) : roleIds.contains roleId = roleIds'.contains roleId := by
    rw [Bool.eq_iff_iff, List.contains_iff_mem, List.contains_iff_mem, hIds.mem_iff]
  have hTest : PermissionOverwrite.forHeldRole roleIds = PermissionOverwrite.forHeldRole roleIds' := by
    funext overwrite
    simp only [PermissionOverwrite.forHeldRole, hContains]
  rw [heldOverwrites, heldOverwrites, hTest]
  exact hPerm.filter _

theorem applyOverwrites_of_perm (memberPseudonym : String) (permissions : Permissions)
    (hTargets : (overwrites.map overwriteTarget).Nodup) (hIds : roleIds.Perm roleIds')
    (hPerm : overwrites.Perm overwrites') :
    applyOverwrites roleIds overwrites memberPseudonym permissions =
      applyOverwrites roleIds' overwrites' memberPseudonym permissions := by
  apply BitVec.eq_of_getLsbD_eq
  intro bit _
  rw [getLsbD_applyOverwrites, getLsbD_applyOverwrites, overwritten, overwritten,
    ownOverwrites_of_perm memberPseudonym hTargets hPerm, everyoneOverwrites_of_perm hTargets hPerm,
    rolesSay_of_perm (heldOverwrites_of_perm hIds hPerm)]

theorem calculatePermissions_of_perm (now : UInt64) (memberPseudonym : String) (timeoutUntil : Option UInt64)
    (hRoles : (roles.map RoleDefinition.id).Nodup) (hTargets : (overwrites.map overwriteTarget).Nodup)
    (hIds : roleIds.Perm roleIds') (hRolesPerm : roles.Perm roles') (hPerm : overwrites.Perm overwrites') :
    calculatePermissions now roleIds roles overwrites memberPseudonym timeoutUntil =
      calculatePermissions now roleIds' roles' overwrites' memberPseudonym timeoutUntil := by
  have hBase := basePermissions_of_perm hRoles hIds hRolesPerm
  have hApply (permissions : Permissions) := applyOverwrites_of_perm memberPseudonym permissions hTargets hIds hPerm
  simp only [calculatePermissions_eq, hBase, hApply]

def sampleRole (id : UInt32) (permissions : Permissions) : RoleDefinition :=
  { id, name := "", color := 0, permissions, position := .zero, hoist := false, mentionable := false }

def sampleOverwrites : List PermissionOverwrite :=
  [{ targetType := .role, targetId := "0", allow := 0, deny := sendMessages },
    { targetType := .role, targetId := "2", allow := sendMessages ||| speak, deny := 0 },
    { targetType := .member, targetId := "alice", allow := 0, deny := speak }]

theorem calculatePermissions_of_perm_sample :
    calculatePermissions 5 [1, 2] [sampleRole 0 viewChannel, sampleRole 2 stream] sampleOverwrites "alice" none =
      calculatePermissions 5 [2, 1] [sampleRole 2 stream, sampleRole 0 viewChannel] sampleOverwrites.reverse "alice"
        none :=
  calculatePermissions_of_perm 5 "alice" none (by decide) (by decide) (List.Perm.swap 2 1 [])
    (List.Perm.swap _ _ []) (List.reverse_perm sampleOverwrites).symm

end

/-! ## What overwrites can give -/

/-- Whether the bit is left to the member by its roles and then the overwrites of the channel. -/
def leaves (memberRoleIds : List UInt32) (allRoles : List RoleDefinition) (channelOverwrites : List PermissionOverwrite)
    (memberPseudonym : String) (bit : Nat) : Bool :=
  (overwritten memberRoleIds channelOverwrites memberPseudonym bit).getD
    ((basePermissions memberRoleIds allRoles).getLsbD bit)

section
variable {now : UInt64} {roleIds : List UInt32} {roles : List RoleDefinition} {overwrites : List PermissionOverwrite}
  {memberPseudonym : String} {timeoutUntil : Option UInt64} {permissions : Permissions} {bit : Nat}

theorem getLsbD_hide : (hide permissions).getLsbD bit =
    (permissions.getLsbD bit && permissions.getLsbD 10) := by
  have hView : permissions &&& viewChannel = 0 ↔ permissions.getLsbD 10 = false := and_flag_eq_zero_iff (by decide)
  cases hVisible : permissions.getLsbD 10 with
  | false => rw [hide, if_pos (hView.mpr hVisible), Bool.and_false, BitVec.ofNat_eq_ofNat, BitVec.getLsbD_zero]
  | true =>
    have hShown : permissions &&& viewChannel ≠ 0 := by rw [Ne, hView, hVisible]; exact Bool.noConfusion
    rw [hide, if_neg hShown, Bool.and_true]

theorem getLsbD_silence : (silence now timeoutUntil permissions).getLsbD bit =
    (permissions.getLsbD bit && !(timedOut now timeoutUntil && timedOutMask.getLsbD bit)) := by
  rw [silence]
  cases timedOut now timeoutUntil with
  | false => simp
  | true =>
    have hBit : permissions.getLsbD bit = true → bit < 64 := BitVec.lt_of_getLsbD
    rw [if_pos rfl, BitVec.getLsbD_and, BitVec.getLsbD_not, Bool.true_and]
    cases hSet : permissions.getLsbD bit with
    | false => rfl
    | true => simp [hBit hSet]

theorem getLsbD_calculatePermissions (h : isAdministrator (basePermissions roleIds roles) = false) :
    (calculatePermissions now roleIds roles overwrites memberPseudonym timeoutUntil).getLsbD bit =
      (leaves roleIds roles overwrites memberPseudonym bit && !(timedOut now timeoutUntil && timedOutMask.getLsbD bit) &&
        leaves roleIds roles overwrites memberPseudonym 10) := by
  have hView : timedOutMask.getLsbD 10 = false := by decide
  simp only [calculatePermissions_eq, h, if_neg Bool.false_ne_true, getLsbD_hide, getLsbD_silence,
    getLsbD_applyOverwrites, hView, Bool.and_false, Bool.not_false, Bool.and_true]
  rfl

/-- The bit for ADMINISTRATOR survives both last steps in a channel that is seen. -/
theorem getLsbD_administrator (h : isAdministrator (basePermissions roleIds roles) = false) :
    (calculatePermissions now roleIds roles overwrites memberPseudonym timeoutUntil).getLsbD 3 =
      (leaves roleIds roles overwrites memberPseudonym 3 && leaves roleIds roles overwrites memberPseudonym 10) := by
  have hMask : timedOutMask.getLsbD 3 = false := by decide
  rw [getLsbD_calculatePermissions h, hMask, Bool.and_false, Bool.not_false, Bool.and_true]

theorem exists_getLsbD_of_ne_zero (h : permissions ≠ 0) : ∃ bit, permissions.getLsbD bit = true := by
  by_contra hNone
  apply h
  apply BitVec.eq_of_getLsbD_eq
  intro bit _
  rw [not_exists] at hNone
  rw [Bool.eq_false_of_not_eq_true (hNone bit), BitVec.ofNat_eq_ofNat, BitVec.getLsbD_zero]

/-- Without the ADMINISTRATOR bit a member that is timed out has none of the masked permissions. -/
theorem hasPermission_of_timedOut (h : isAdministrator (basePermissions roleIds roles) = false)
    (hTimedOut : timedOut now timeoutUntil = true)
    (hLeaves : ¬(leaves roleIds roles overwrites memberPseudonym 3 = true ∧
      leaves roleIds roles overwrites memberPseudonym 10 = true))
    {permission : Permissions} (hMasked : permission &&& timedOutMask ≠ 0) :
    hasPermission (calculatePermissions now roleIds roles overwrites memberPseudonym timeoutUntil) permission = false := by
  obtain ⟨bit, hBit⟩ := exists_getLsbD_of_ne_zero hMasked
  rw [BitVec.getLsbD_and, Bool.and_eq_true] at hBit
  apply Bool.eq_false_of_not_eq_true
  rw [hasPermission_iff, getLsbD_administrator h, Bool.and_eq_true]
  rintro (hAdministrator | hAll)
  · exact hLeaves hAdministrator
  · have hKept := hAll bit hBit.1
    rw [getLsbD_calculatePermissions h, hTimedOut, hBit.2] at hKept
    simp at hKept

/-- A bit that is left is one of the roles or one that some overwrite allows. -/
theorem leaves_sound (h : leaves roleIds roles overwrites memberPseudonym bit = true) :
    (basePermissions roleIds roles).getLsbD bit = true ∨ ∃ overwrite ∈ overwrites, overwrite.allow.getLsbD bit = true := by
  rw [leaves] at h
  cases hSaid : overwritten roleIds overwrites memberPseudonym bit with
  | none =>
    rw [hSaid] at h
    exact .inl h
  | some said =>
    rw [hSaid] at h
    exact .inr (exists_allow_of_overwritten (hSaid.trans (congrArg some h)))

def administratorOverwrite : PermissionOverwrite :=
  { targetType := .member, targetId := "alice", allow := administrator, deny := 0 }

end

/-! ## The check of the server -/

section
variable {now : UInt64} {community : HostedCommunity} {sender : String} {required : Permissions}

theorem isAdministrator_allPermissions : isAdministrator allPermissions = true := by decide

theorem applyOverwrites_nil (memberRoleIds : List UInt32) (memberPseudonym : String) (permissions : Permissions) :
    applyOverwrites memberRoleIds [] memberPseudonym permissions = permissions := by
  apply BitVec.eq_of_getLsbD_eq
  intro bit _
  rw [getLsbD_applyOverwrites]
  rfl

/-- A member that is not timed out is checked against its roles, which count only in view of a channel. -/
theorem hasPermission_memberBase {member : ServerMember} (hMember : findMember community.members sender = some member)
    (hTime : timedOut now member.timeoutUntil = false) :
    hasPermission (memberBasePermissions now community sender) required = true ↔
      (rolePermissions community sender).getLsbD 3 = true ∨
        ∀ bit, required.getLsbD bit = true →
          (rolePermissions community sender).getLsbD bit = true ∧ (rolePermissions community sender).getLsbD 10 = true := by
  have hBase : rolePermissions community sender = basePermissions member.roleIds community.roles := by
    rw [rolePermissions, hMember, Option.elim_some]
  have hCalculated : memberBasePermissions now community sender =
      if isAdministrator (rolePermissions community sender) then allPermissions
      else hide (rolePermissions community sender) := by
    simp only [memberBasePermissions, hMember, calculatePermissions_eq, hBase, applyOverwrites_nil, silence, hTime,
      Bool.false_eq_true, if_false]
  rw [hCalculated]
  cases hAdministrator : isAdministrator (rolePermissions community sender) with
  | true =>
    rw [if_pos rfl, hasPermission_iff, ← isAdministrator_iff, ← isAdministrator_iff, hAdministrator,
      isAdministrator_allPermissions]
    exact iff_of_true (.inl rfl) (.inl rfl)
  | false =>
    have hNot : (rolePermissions community sender).getLsbD 3 = false := by
      rw [← Bool.not_eq_true, ← isAdministrator_iff, hAdministrator]
      exact Bool.false_ne_true
    rw [if_neg Bool.false_ne_true, hasPermission_iff]
    simp only [getLsbD_hide, hNot, Bool.false_and, Bool.and_eq_true]

theorem checkPermission_eq_ok_iff : checkPermission now community sender required = .ok () ↔
    isCreator community sender = true ∨ hasPermission (memberBasePermissions now community sender) required = true := by
  rw [checkPermission]
  cases isCreator community sender with
  | true => simp
  | false => cases hasPermission (memberBasePermissions now community sender) required <;> simp

/-- The check agrees with the roles, except for a member whose roles do not let it view channels. -/
theorem checkPermission_agrees_iff (h : isCreator community sender = true ∨
      ∃ member, findMember community.members sender = some member ∧ timedOut now member.timeoutUntil = false) :
    (checkPermission now community sender required = .ok () ↔
      isCreator community sender = true ∨ isAdministrator (rolePermissions community sender) = true ∨
        rolePermissions community sender &&& required = required) ↔
      isCreator community sender = true ∨ isAdministrator (rolePermissions community sender) = true ∨
        rolePermissions community sender &&& viewChannel ≠ 0 ∨ required = 0 ∨
        rolePermissions community sender &&& required ≠ required := by
  have hView : rolePermissions community sender &&& viewChannel = 0 ↔
      (rolePermissions community sender).getLsbD 10 = false := and_flag_eq_zero_iff (by decide)
  rw [checkPermission_eq_ok_iff]
  cases hCreator : isCreator community sender with
  | true => simp
  | false =>
    rw [hCreator] at h
    obtain ⟨member, hMember, hTime⟩ := h.resolve_left Bool.false_ne_true
    rw [hasPermission_memberBase hMember hTime, Ne, Ne, and_eq_right_iff, isAdministrator_iff, hView]
    by_cases hRequired : required = 0
    · have hNone (bit : Nat) : required.getLsbD bit = false := by
        rw [hRequired, BitVec.ofNat_eq_ofNat, BitVec.getLsbD_zero]
      simp [hRequired, hNone]
    · obtain ⟨bit, hBit⟩ := exists_getLsbD_of_ne_zero hRequired
      cases hVisible : (rolePermissions community sender).getLsbD 10 with
      | true => simp
      | false =>
        -- Nothing is left of the roles, so the check refuses what they grant.
        have hRefused : (∀ bit, required.getLsbD bit = true →
            (rolePermissions community sender).getLsbD bit = true ∧ false = true) ↔ False := by
          rw [iff_false]
          intro hAll
          exact Bool.false_ne_true (hAll bit hBit).2
        rw [hRefused]
        simp only [Bool.false_eq_true, false_or, or_false, hRequired, not_true_eq_false]
        tauto

def sampleModerator : ServerMember :=
  { pseudonymKeyHex := "alice", displayName := "", roleIds := [1], joinedAt := 0, routeBlob := none, timeoutUntil := none }

/-- A community in which a role lets its members ban, but not view channels. -/
def blindCommunity : HostedCommunity :=
  { communityId := "", name := "", description := "", mek := { key := [], generation := 1 }, members := [sampleModerator],
    channels := [], roles := [sampleRole 1 banMembers], creatorPseudonymHex := "owner" }

theorem checkPermission_agrees_iff_blind :
    (checkPermission 5 blindCommunity "alice" kickMembers = .ok () ↔
      isCreator blindCommunity "alice" = true ∨ isAdministrator (rolePermissions blindCommunity "alice") = true ∨
        rolePermissions blindCommunity "alice" &&& kickMembers = kickMembers) ↔
      isCreator blindCommunity "alice" = true ∨ isAdministrator (rolePermissions blindCommunity "alice") = true ∨
        rolePermissions blindCommunity "alice" &&& viewChannel ≠ 0 ∨ kickMembers = 0 ∨
        rolePermissions blindCommunity "alice" &&& kickMembers ≠ kickMembers :=
  checkPermission_agrees_iff (.inr ⟨sampleModerator, by decide, by decide⟩)

theorem blind_moderator_refused :
    ¬(checkPermission 5 blindCommunity "alice" banMembers = .ok () ↔
      isCreator blindCommunity "alice" = true ∨ isAdministrator (rolePermissions blindCommunity "alice") = true ∨
        rolePermissions blindCommunity "alice" &&& banMembers = banMembers) := by
  intro hAgrees
  have hAllowed : checkPermission 5 blindCommunity "alice" banMembers = .ok () := hAgrees.mpr (.inr (.inr (by decide)))
  revert hAllowed
  decide

end

end Rekindle.Server
