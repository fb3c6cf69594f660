import Rekindle.Library.NumberBits
import Rekindle.Server.Calculation

/-! # The permissions of the interface

The interface calculates with numbers: the low 31 bits of two masks are combined by bitwise
operators, the bits above by taking the larger part.
-/
namespace Rekindle.Ipc
set_option autoImplicit false
open NumberBits

structure Role where
  id : Int
  name : String
  color : Int
  permissions : Int
  position : Int
  hoist : Bool
  mentionable : Bool
  deriving DecidableEq

def createInstantInvite := shiftLeft 1 0
def kickMembers := shiftLeft 1 1
def banMembers := shiftLeft 1 2
def administrator := shiftLeft 1 3
def manageChannels := shiftLeft 1 4
def manageCommunity := shiftLeft 1 5
def addReactions := shiftLeft 1 6
def viewAuditLog := shiftLeft 1 7
def prioritySpeaker := shiftLeft 1 8
def stream := shiftLeft 1 9
def viewChannel := shiftLeft 1 10
def sendMessages := shiftLeft 1 11
def manageMessages := shiftLeft 1 13
def embedLinks := shiftLeft 1 14
def attachFiles := shiftLeft 1 15
def readMessageHistory := shiftLeft 1 16
def mentionEveryone := shiftLeft 1 17
def useExternalEmojis := shiftLeft 1 18
def connect := shiftLeft 1 20
def speak := shiftLeft 1 21
def muteMembers := shiftLeft 1 22
def deafenMembers := shiftLeft 1 23
def moveMembers := shiftLeft 1 24
def useVad := shiftLeft 1 25
def changeNickname := shiftLeft 1 26
def manageNicknames := shiftLeft 1 27
def manageRoles := shiftLeft 1 28
def moderateMembers : Int := 2 ^ 40

/-- The permission constants, in their order. -/
def permissionConstants : List Int :=
  [createInstantInvite, kickMembers, banMembers, administrator, manageChannels, manageCommunity, addReactions,
    viewAuditLog, prioritySpeaker, stream, viewChannel, sendMessages, manageMessages, embedLinks, attachFiles,
    readMessageHistory, mentionEveryone, useExternalEmojis, connect, speak, muteMembers, deafenMembers, moveMembers,
    useVad, changeNickname, manageNicknames, manageRoles, moderateMembers]

/-- The constants below bit 31 by `|`, and `MODERATE_MEMBERS` added. -/
def allPermissions : Int := permissionConstants.dropLast.foldl bitOr 0 + moderateMembers

def adminBit : Int := administrator

/-- `hasPermission`. A high bit is tested by a division, which is exact for a power of two. -/
def hasPermission (perms required : Int) : Bool :=
  if bitAnd perms adminBit ≠ 0 then true
  else if required > 0x7FFFFFFF then (perms.fdiv required).tmod 2 == 1
  else bitAnd perms required == required

/-- What a role of the member adds to the permissions that are known. -/
def combine (perms : Int) (role : Role) : Int :=
  let lowBits := bitAnd (bitOr perms role.permissions) 0x7FFFFFFF
  let highPerms := role.permissions - bitAnd role.permissions 0x7FFFFFFF
  let highCurrent := perms - bitAnd perms 0x7FFFFFFF
  lowBits + max highPerms highCurrent

/-- `calculateBasePermissions`; `isHosted` may be left out. -/
def calculateBasePermissions (roleIds : List Int) (allRoles : List Role) (isHosted : Option Bool) : Int :=
  if isHosted = some true then allPermissions
  else
    roleIds.foldl
      (fun perms id =>
        match allRoles.find? fun role => role.id == id with
        | some role => combine perms role
        | none => perms)
      0

/-! ## The roles of the server as the interface has them -/

def Role.ofDefinition (role : Server.RoleDefinition) : Role :=
  { id := role.id.toNat, name := role.name, color := role.color.toNat, permissions := role.permissions.toNat,
    position := role.position.val, hoist := role.hoist, mentionable := role.mentionable }

/-- A mask of defined permission bits. -/
def Defined (mask : Server.Permissions) : Prop := mask &&& ~~~Server.allPermissions = 0

instance (mask : Server.Permissions) : Decidable (Defined mask) :=
  inferInstanceAs (Decidable (mask &&& ~~~Server.allPermissions = 0))

section
variable {mask base : Server.Permissions} {n m bit : Nat}

theorem Defined.getLsbD_eq_false (h : Defined mask) (hBit : 40 < bit) : mask.getLsbD bit = false := by
  by_cases hWidth : bit < 64
  · have hAnd : (mask &&& ~~~Server.allPermissions).getLsbD bit = false := by rw [h, BitVec.ofNat_eq_ofNat, BitVec.getLsbD_zero]
    have hUndefined : Server.allPermissions.getLsbD bit = false := by
      have hAll : ∀ k ∈ List.range 23, Server.allPermissions.getLsbD (k + 41) = false := by decide
      have hBelow := hAll (bit - 41) (List.mem_range.mpr (by omega))
      rwa [Nat.sub_add_cancel (by omega)] at hBelow
    rw [BitVec.getLsbD_and, BitVec.getLsbD_not, hUndefined, decide_eq_true hWidth] at hAnd
    simpa using hAnd
  · exact BitVec.getLsbD_of_ge mask bit (by omega)

theorem Defined.toNat_lt (h : Defined mask) : mask.toNat < 2 ^ 41 := by
  apply Nat.lt_pow_two_of_testBit
  intro bit hBit
  exact h.getLsbD_eq_false hBit

theorem two_pow_le_iff_testBit (h : n < 2 ^ 41) : 2 ^ 40 ≤ n ↔ n.testBit 40 = true := by
  rw [Nat.testBit_eq_decide_div_mod_eq, decide_eq_true_iff]
  omega

/-- The number stands for the mask in the 31 low bits and in bit 40, the bits that have a constant. -/
structure Stands (n : Nat) (mask : Server.Permissions) : Prop where
  low : n % 2 ^ 31 = mask.toNat % 2 ^ 31
  bound : n < 2 ^ 41
  high : 2 ^ 40 ≤ n ↔ mask.getLsbD 40 = true

theorem Defined.stands (h : Defined mask) : Stands mask.toNat mask where
  low := rfl
  bound := h.toNat_lt
  high := two_pow_le_iff_testBit h.toNat_lt

theorem stands_zero : Stands 0 0#64 where
  low := rfl
  bound := by omega
  high := by simp

theorem Stands.testBit (h : Stands n mask) (hBit : bit < 31) : n.testBit bit = mask.getLsbD bit := by
  have hLow : (n % 2 ^ 31).testBit bit = (mask.toNat % 2 ^ 31).testBit bit := congrArg (Nat.testBit · bit) h.low
  rwa [Nat.testBit_mod_two_pow, Nat.testBit_mod_two_pow, decide_eq_true hBit, Bool.true_and, Bool.true_and] at hLow

/-- The part above bit 30 is a multiple of `2 ^ 31`, and the larger of two contains every constant of both. -/
theorem combine_natCast {role : Role} (hRole : role.permissions = (m : Int)) :
    combine n role = (((n ||| m) % 2 ^ 31 + max (m / 2 ^ 31) (n / 2 ^ 31) * 2 ^ 31 : Nat) : Int) := by
  have hMask : (0x7FFFFFFF : Int) = ((2 ^ 31 - 1 : Nat) : Int) := by decide
  have hLow (k : Nat) : bitAnd k ((2 ^ 31 - 1 : Nat) : Int) = ((k % 2 ^ 31 : Nat) : Int) := by
    rw [bitAnd_natCast (by decide), Nat.and_two_pow_sub_one_eq_mod]
  rw [combine, hRole, hMask, hLow, hLow, bitAnd_bitOr_natCast (by decide), Nat.and_two_pow_sub_one_eq_mod]
  omega

theorem Stands.combine (h : Stands n base) (hMask : Stands m mask) {role : Role} (hRole : role.permissions = (m : Int)) :
    ∃ k : Nat, Ipc.combine n role = k ∧ Stands k (base ||| mask) := by
  refine ⟨_, combine_natCast hRole, ?_, ?_, ?_⟩
  · rw [Nat.add_mul_mod_self_right, Nat.mod_mod, BitVec.toNat_or, Nat.or_mod_two_pow, h.low, hMask.low,
      ← Nat.or_mod_two_pow]
  · have hBase := h.bound
    have hOther := hMask.bound
    omega
  · rw [BitVec.getLsbD_or, Bool.or_eq_true, ← h.high, ← hMask.high]
    omega

/-! ## The calculation -/

def foundRoles (roleIds : List UInt32) (roles : List Server.RoleDefinition) : List Server.RoleDefinition :=
  roleIds.filterMap (Server.findRole roles)

theorem find_ofDefinition (roles : List Server.RoleDefinition) (roleId : UInt32) :
    ((roles.map Role.ofDefinition).find? fun role => role.id == (roleId.toNat : Int)) =
      (Server.findRole roles roleId).map Role.ofDefinition := by
  rw [List.find?_map, Server.findRole, Keyed.find]
  congr 2
  funext role
  rw [Function.comp_apply, Bool.eq_iff_iff, beq_iff_eq, beq_iff_eq]
  exact Int.natCast_inj.trans UInt32.toNat_inj

theorem calculateBasePermissions_eq (roleIds : List UInt32) (roles : List Server.RoleDefinition) :
    calculateBasePermissions (roleIds.map fun roleId => (roleId.toNat : Int)) (roles.map Role.ofDefinition) none =
      (foundRoles roleIds roles).foldl (fun perms role => combine perms (Role.ofDefinition role)) 0 := by
  rw [calculateBasePermissions, if_neg (by decide), foundRoles, List.foldl_filterMap, List.foldl_map]
  congr 1
  funext perms roleId
  rw [find_ofDefinition]
  cases Server.findRole roles roleId <;> rfl

theorem stands_foldl {n : Nat} {base : Server.Permissions} (h : Stands n base) (found : List Server.RoleDefinition)
    (hDefined : ∀ role ∈ found, Defined role.permissions) :
    ∃ k : Nat, found.foldl (fun perms role => combine perms (Role.ofDefinition role)) (n : Int) = k ∧
      Stands k (found.foldl (fun base role => base ||| role.permissions) base) := by
  induction found generalizing n base with
  | nil => exact ⟨n, rfl, h⟩
  | cons role rest ih =>
    rw [List.forall_mem_cons] at hDefined
    obtain ⟨k, hCombine, hStands⟩ : ∃ k : Nat, combine n (Role.ofDefinition role) = k ∧
        Stands k (base ||| role.permissions) := h.combine hDefined.1.stands rfl
    rw [List.foldl_cons, List.foldl_cons, hCombine]
    exact ih hStands hDefined.2

theorem getLsbD_foldl_found (found : List Server.RoleDefinition) (base : Server.Permissions) :
    (found.foldl (fun base role => base ||| role.permissions) base).getLsbD bit =
      (base.getLsbD bit || found.any fun role => role.permissions.getLsbD bit) := by
  induction found generalizing base with
  | nil => simp
  | cons role rest ih => rw [List.foldl_cons, ih, BitVec.getLsbD_or, List.any_cons, Bool.or_assoc]

/-- A member that lists @everyone has no other bits than those of the roles it lists. -/
theorem foldl_found_eq {roleIds : List UInt32} (roles : List Server.RoleDefinition)
    (hEveryone : Server.roleEveryoneId ∈ roleIds) :
    (foundRoles roleIds roles).foldl (fun base role => base ||| role.permissions) 0#64 =
      Server.basePermissions roleIds roles := by
  apply BitVec.eq_of_getLsbD_eq
  intro bit _
  rw [Bool.eq_iff_iff, getLsbD_foldl_found, Server.getLsbD_basePermissions, BitVec.getLsbD_zero, Bool.false_or,
    List.any_eq_true]
  constructor
  · rintro ⟨role, hRole, hBit⟩
    obtain ⟨roleId, hHeld, hFound⟩ := List.mem_filterMap.mp hRole
    exact ⟨roleId, role, .inr hHeld, hFound, hBit⟩
  · rintro ⟨roleId, role, hHeld, hFound, hBit⟩
    have hListed : roleId ∈ roleIds := by
      obtain rfl | hHeld := hHeld
      · exact hEveryone
      · exact hHeld
    exact ⟨role, List.mem_filterMap.mpr ⟨roleId, hListed, hFound⟩, hBit⟩

/-- The calculation of the interface stands for the combined masks of the roles. -/
theorem calculateBasePermissions_stands {roleIds : List UInt32} {roles : List Server.RoleDefinition}
    (hDefined : ∀ role ∈ roles, Defined role.permissions) (hEveryone : Server.roleEveryoneId ∈ roleIds) :
    ∃ n : Nat, calculateBasePermissions (roleIds.map fun roleId => (roleId.toNat : Int))
        (roles.map Role.ofDefinition) none = n ∧ Stands n (Server.basePermissions roleIds roles) := by
  have hFound : ∀ role ∈ foundRoles roleIds roles, Defined role.permissions := by
    intro role hRole
    obtain ⟨roleId, _, hFind⟩ := List.mem_filterMap.mp hRole
    exact hDefined role (List.mem_of_find?_eq_some hFind)
  obtain ⟨n, hNumber, hStands⟩ := stands_foldl stands_zero (foundRoles roleIds roles) hFound
  rw [foldl_found_eq roles hEveryone] at hStands
  exact ⟨n, (calculateBasePermissions_eq roleIds roles).trans hNumber, hStands⟩

/-! ## The check -/

/-- The constants are single bits, below bit 31 or bit 40. -/
theorem exists_bit_of_mem {permission : Int} (h : permission ∈ permissionConstants) :
    ∃ bit, (bit < 31 ∨ bit = 40) ∧ permission = ((2 ^ bit : Nat) : Int) := by
  have hBits : permissionConstants = ([0, 1, 2, 3, 4, 5, 6, 7, 8, 9, 10, 11, 13, 14, 15, 16, 17, 18, 20, 21, 22, 23, 24,
      25, 26, 27, 28, 40].map fun bit : Nat => ((2 ^ bit : Nat) : Int)) := by decide
  rw [hBits] at h
  obtain ⟨bit, hBit, rfl⟩ := List.mem_map.mp h
  refine ⟨bit, ?_, rfl⟩
  simp only [List.mem_cons, List.not_mem_nil, or_false] at hBit
  omega

theorem Stands.hasPermission_iff (h : Stands n mask) (hBit : bit < 31 ∨ bit = 40) :
    hasPermission n ((2 ^ bit : Nat) : Int) = true ↔ mask.getLsbD 3 = true ∨ mask.getLsbD bit = true := by
  have hAdminBit : adminBit = ((2 ^ 3 : Nat) : Int) := by decide
  have hAdmin : bitAnd n adminBit ≠ 0 ↔ mask.getLsbD 3 = true := by
    rw [← h.testBit (by omega), hAdminBit, bitAnd_two_pow_ne_zero_iff (by omega)]
  rw [hasPermission, ← hAdmin]
  by_cases hSet : bitAnd n adminBit ≠ 0
  · rw [if_pos hSet]
    exact iff_of_true rfl (.inl hSet)
  · rw [if_neg hSet, or_iff_right hSet]
    obtain hLow | rfl := hBit
    · have hSmall : 2 ^ bit < 2 ^ 31 := Nat.pow_lt_pow_right (by omega) hLow
      rw [if_neg (by omega), beq_iff_eq, bitAnd_two_pow_eq_iff hLow, h.testBit hLow]
    · have hHigh : ((2 ^ 40 : Nat) : Int) > 0x7FFFFFFF := by decide
      have hBound := h.bound
      have hQuotient : (n : Int).fdiv ((2 ^ 40 : Nat) : Int) = ((n / 2 ^ 40 : Nat) : Int) := by
        rw [Int.fdiv_eq_ediv_of_nonneg _ (Int.natCast_nonneg _), Int.natCast_div]
      have hRemainder : ((n / 2 ^ 40 : Nat) : Int).tmod 2 = ((n / 2 ^ 40 % 2 : Nat) : Int) := rfl
      rw [if_pos hHigh, beq_iff_eq, ← h.high, hQuotient, hRemainder]
      omega

end

section
variable {now : UInt64} {community : Server.HostedCommunity} {sender : String} {member : Server.ServerMember}
  {permission : Int} {bit : Nat}

theorem ofInt_two_pow : BitVec.ofInt 64 ((2 ^ bit : Nat) : Int) = Server.flag bit := by
  have hFlag : Server.flag bit = BitVec.twoPow 64 bit := rfl
  rw [hFlag, BitVec.ofInt_natCast]
  apply BitVec.eq_of_toNat_eq
  rw [BitVec.toNat_ofNat, BitVec.toNat_twoPow]

/-- What the interface answers for a member with these roles. -/
def gate (member : Server.ServerMember) (roles : List Server.RoleDefinition) (permission : Int) : Bool :=
  hasPermission (calculateBasePermissions (member.roleIds.map fun roleId => (roleId.toNat : Int))
    (roles.map Role.ofDefinition) none) permission

def everyoneModerator : Server.ServerMember := { Server.sampleModerator with roleIds := [0, 1] }

/-- A community in which moderators may time members out, but not view channels. -/
def gatedCommunity : Server.HostedCommunity :=
  { Server.blindCommunity with
    members := [everyoneModerator]
    roles := [Server.sampleRole 0 Server.sendMessages, Server.sampleRole 1 Server.moderateMembers] }

end

end Rekindle.Ipc
