import Mathlib.Data.Int.Order.Basic
import Mathlib.Data.List.Basic
import Mathlib.Order.Lattice
import Rekindle.Library.Keyed

/-! # Roles and permission bits

Permissions are a 64-bit mask. Role positions are 32-bit signed integers; the order on them is
the hierarchy.
-/
namespace Rekindle.Server
set_option autoImplicit false

abbrev Permissions := BitVec 64

/-- An `i32`. -/
@[ext]
structure Position where
  val : Int
  property : -2147483648 ≤ val ∧ val < 2147483648
  deriving DecidableEq

namespace Position

instance : LinearOrder Position :=
  @LinearOrder.lift' Position Int Int.instLinearOrder Position.val fun _ _ => Position.ext

def greatest : Position := ⟨2147483647, by decide⟩
def none : Position := ⟨-1, by decide⟩
def zero : Position := ⟨0, by decide⟩
def one : Position := ⟨1, by decide⟩

/-- `saturating_sub(1)`. -/
def pred (position : Position) : Position :=
  ⟨max (position.val - 1) (-2147483648), by have := position.property; omega⟩

theorem pred_le (position : Position) : position.pred ≤ position := by
  have hLow := position.property.1
  have hPred : max (position.val - 1) (-2147483648) ≤ position.val := by omega
  exact hPred

theorem le_greatest (position : Position) : position ≤ greatest := by
  have hHigh := position.property.2
  have hLast : position.val ≤ 2147483647 := by omega
  exact hLast

end Position

def roleEveryoneId : UInt32 := 0

structure RoleDefinition where
  id : UInt32
  name : String
  color : UInt32
  permissions : Permissions
  position : Position
  hoist : Bool
  mentionable : Bool
  deriving DecidableEq

inductive OverwriteType where
  | role
  | member
  deriving DecidableEq

structure PermissionOverwrite where
  targetType : OverwriteType
  targetId : String
  allow : Permissions
  deny : Permissions
  deriving DecidableEq

def flag (bit : Nat) : Permissions := 1#64 <<< bit

def createInstantInvite := flag 0
def kickMembers := flag 1
def banMembers := flag 2
def administrator := flag 3
def manageChannels := flag 4
def manageCommunity := flag 5
def addReactions := flag 6
def viewAuditLog := flag 7
def prioritySpeaker := flag 8
def stream := flag 9
def viewChannel := flag 10
def sendMessages := flag 11
def manageMessages := flag 13
def embedLinks := flag 14
def attachFiles := flag 15
def readMessageHistory := flag 16
def mentionEveryone := flag 17
def useExternalEmojis := flag 18
def connect := flag 20
def speak := flag 21
def muteMembers := flag 22
def deafenMembers := flag 23
def moveMembers := flag 24
def useVad := flag 25
def changeNickname := flag 26
def manageNicknames := flag 27
def manageRoles := flag 28
def manageThreads := flag 34
def createPublicThreads := flag 35
def createPrivateThreads := flag 36
def moderateMembers := flag 40

def isAdministrator (permissions : Permissions) : Bool := permissions &&& administrator != 0

def hasPermission (memberPermissions required : Permissions) : Bool :=
  if memberPermissions &&& administrator != 0 then true
  else memberPermissions &&& required == required

def everyonePermissions : Permissions :=
  viewChannel ||| readMessageHistory ||| connect ||| sendMessages ||| speak ||| addReactions |||
    embedLinks ||| attachFiles ||| useExternalEmojis ||| useVad ||| changeNickname

def memberPermissions : Permissions := everyonePermissions ||| createInstantInvite

def moderatorPermissions : Permissions :=
  memberPermissions ||| kickMembers ||| manageMessages ||| muteMembers ||| deafenMembers |||
    moderateMembers

def adminPermissions : Permissions :=
  moderatorPermissions ||| manageChannels ||| manageRoles ||| banMembers ||| viewAuditLog |||
    manageNicknames ||| manageCommunity

def allPermissions : Permissions :=
  createInstantInvite ||| kickMembers ||| banMembers ||| administrator ||| manageChannels |||
    manageCommunity ||| addReactions ||| viewAuditLog ||| prioritySpeaker ||| stream |||
    viewChannel ||| sendMessages ||| manageMessages ||| embedLinks ||| attachFiles |||
    readMessageHistory ||| mentionEveryone ||| useExternalEmojis ||| connect ||| speak |||
    muteMembers ||| deafenMembers ||| moveMembers ||| useVad ||| changeNickname |||
    manageNicknames ||| manageRoles ||| manageThreads ||| createPublicThreads |||
    createPrivateThreads ||| moderateMembers

def ownerPermissions : Permissions := allPermissions

/-- `roles.iter().find(|r| r.id == id)`. -/
def findRole (roles : List RoleDefinition) (id : UInt32) : Option RoleDefinition :=
  Keyed.find RoleDefinition.id id roles

/-- Steps 1 and 2 of the calculation: @everyone, then every held role that exists. -/
def basePermissions (memberRoleIds : List UInt32) (allRoles : List RoleDefinition) : Permissions :=
  memberRoleIds.foldl
    (fun base roleId =>
      if roleId = roleEveryoneId then base
      else base ||| (findRole allRoles roleId).elim 0 RoleDefinition.permissions)
    ((findRole allRoles roleEveryoneId).elim 0 RoleDefinition.permissions)

/-- `str::parse::<u32>`: an optional plus sign and decimal digits. -/
def parseU32 (text : String) : Option UInt32 :=
  let digits := match text.toList with
    | '+' :: rest => rest
    | digits => digits
  if digits ≠ [] ∧ digits.all Char.isDigit then
    let value := digits.foldl (fun acc digit => 10 * acc + (digit.toNat - '0'.toNat)) 0
    if value < UInt32.size then some (UInt32.ofNat value) else none
  else none

def PermissionOverwrite.apply (permissions : Permissions) (overwrite : PermissionOverwrite) :
    Permissions :=
  permissions &&& ~~~overwrite.deny ||| overwrite.allow

/-- The overwrite is for a role, other than @everyone, that the member holds. -/
def PermissionOverwrite.forHeldRole (memberRoleIds : List UInt32) (overwrite : PermissionOverwrite) :
    Bool :=
  overwrite.targetType == .role && (parseU32 overwrite.targetId).any fun roleId =>
    roleId != roleEveryoneId && memberRoleIds.contains roleId

/-- Steps 4 to 6. -/
def applyOverwrites (memberRoleIds : List UInt32) (overwrites : List PermissionOverwrite)
    (memberPseudonym : String) (permissions : Permissions) : Permissions :=
  let everyone := overwrites.filter fun o => o.targetType == .role && o.targetId == "0"
  let held := overwrites.filter (PermissionOverwrite.forHeldRole memberRoleIds)
  let own := overwrites.filter fun o => o.targetType == .member && o.targetId == memberPseudonym
  let permissions := everyone.foldl PermissionOverwrite.apply permissions
  let roleAllow := held.foldl (fun acc o => acc ||| o.allow) 0
  let roleDeny := held.foldl (fun acc o => acc ||| o.deny) 0
  own.foldl PermissionOverwrite.apply (permissions &&& ~~~roleDeny ||| roleAllow)

def timedOutMask : Permissions :=
  sendMessages ||| addReactions ||| speak ||| stream ||| createInstantInvite

/-- The effective permissions at the time `now`, in seconds. -/
def calculatePermissions (now : UInt64) (memberRoleIds : List UInt32) (allRoles : List RoleDefinition)
    (channelOverwrites : List PermissionOverwrite) (memberPseudonym : String)
    (timeoutUntil : Option UInt64) : Permissions :=
  let base := basePermissions memberRoleIds allRoles
  if isAdministrator base then allPermissions
  else
    let permissions := applyOverwrites memberRoleIds channelOverwrites memberPseudonym base
    let permissions := match timeoutUntil with
      | some deadline => if now < deadline then permissions &&& ~~~timedOutMask else permissions
      | none => permissions
    if permissions &&& viewChannel = 0 then 0 else permissions

end Rekindle.Server
