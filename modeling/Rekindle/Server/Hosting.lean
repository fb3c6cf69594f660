import Rekindle.Library.Runs
import Rekindle.Server.Dispatch

/-! # Hosting a community

A community is built from its database rows; a new one gets the default roles, and its creator is
registered as the first member.
-/
namespace Rekindle.Server
set_option autoImplicit false
open Fallible

def defaultRoles : List RoleDefinition :=
  [{ id := roleEveryoneId, name := "@everyone", color := 0, permissions := everyonePermissions
     position := Position.zero, hoist := false, mentionable := false },
   { id := 1, name := "Member", color := 0, permissions := memberPermissions
     position := Position.one, hoist := false, mentionable := false },
   { id := 2, name := "Moderator", color := 0x3498DB, permissions := moderatorPermissions
     position := ⟨2, by decide⟩, hoist := true, mentionable := true },
   { id := 3, name := "Admin", color := 0xE74C3C, permissions := adminPermissions
     position := ⟨3, by decide⟩, hoist := true, mentionable := true },
   { id := 4, name := "Owner", color := 0xF1C40F, permissions := ownerPermissions
     position := ⟨4, by decide⟩, hoist := true, mentionable := false }]

inductive HostError where
  | database
  | insertDefaultRole
  | setup
  deriving DecidableEq

abbrev HostM := EStateM HostError ServerState

/-- A query whose failure ends hosting. -/
def load {α : Type} (read : Database → α) : HostM α := do
  let rows ← query read
  ofExcept (orThrow rows .database)

variable (env : Environment) (communityId : String)

/-- Reading a column as `u64` fails on a negative integer. -/
def readsAsU64 (bits : Permissions) : Bool := bits.msb = false

def loadRolesFromDb (db : Database) : List RoleDefinition :=
  let rows := db.serverRoles.filter fun row =>
    row.communityId == communityId && readsAsU64 row.role.permissions
  (rows.map RoleRow.role).insertionSort fun a b => a.position ≥ b.position

def createDefaultRoles : HostM (List RoleDefinition) := do
  defaultRoles.forM fun role => do
    let stored ← execute fun db => db.insertRoleOrIgnore ⟨communityId, role⟩
    ofExcept (refuseIf (stored = false) .insertDefaultRole)
  pure defaultRoles

def loadMemberRoles (db : Database) (pseudonym : String) : List UInt32 :=
  (db.serverMemberRoles.filter fun row =>
    row.communityId == communityId && row.pseudonymKeyHex == pseudonym).map MemberRoleRow.roleId

def loadTimeout (db : Database) (pseudonym : String) : Option UInt64 :=
  (db.serverMemberTimeouts.find? fun row =>
    row.communityId == communityId && row.pseudonymKeyHex == pseudonym &&
      row.timeoutUntil < 9223372036854775808 && row.timeoutUntil > env.now).map TimeoutRow.timeoutUntil

def loadMembersFromDb (db : Database) : List ServerMember :=
  (db.serverMembers.filter (·.communityId == communityId)).map fun row =>
    { pseudonymKeyHex := row.pseudonymKeyHex, displayName := row.displayName
      roleIds := loadMemberRoles communityId db row.pseudonymKeyHex, joinedAt := row.joinedAt
      routeBlob := row.routeBlob, timeoutUntil := loadTimeout env communityId db row.pseudonymKeyHex }

def loadOverwrites (db : Database) (channelId : String) : List PermissionOverwrite :=
  (db.serverChannelOverwrites.filter fun row =>
    row.communityId == communityId && row.channelId == channelId && readsAsU64 row.allowBits &&
      readsAsU64 row.denyBits).map fun row =>
    { targetType := overwriteType row.targetType, targetId := row.targetId
      allow := row.allowBits, deny := row.denyBits }

def loadChannelsFromDb (db : Database) : List ServerChannel :=
  (db.serverChannels.filter (·.communityId == communityId)).map fun row =>
    { id := row.id, name := row.name, channelType := row.channelType, sortOrder := row.sortOrder
      permissionOverwrites := loadOverwrites communityId db row.id }

def latestMekRow (db : Database) : Option MekRow :=
  ((db.serverMek.filter (·.communityId == communityId)).insertionSort fun a b =>
    a.generation ≥ b.generation).head?

/-- The latest key; none when there is no row or its key has not 32 bytes. -/
def loadLatestMek (db : Database) : Option MediaEncryptionKey :=
  (latestMekRow communityId db).bind fun row =>
    if row.keyBytes.length = 32 then
      some { generation := UInt64.ofNat row.generation, key := row.keyBytes }
    else none

def createInitialMek : HostM MediaEncryptionKey := do
  executeIgnoring fun db => db.insertOrReplaceMek
    { communityId := communityId, generation := 1, keyBytes := env.mekKey
      createdAt := env.timestampNow }
  pure { generation := 1, key := env.mekKey }

def loadOrCreateMek : HostM MediaEncryptionKey := do
  let row ← query (loadLatestMek communityId)
  match row.join with
  | some mek => pure mek
  | none => createInitialMek env communityId

def loadOrCreateRoles : HostM (List RoleDefinition) := do
  let roles ← load (loadRolesFromDb communityId)
  if roles = [] then createDefaultRoles communityId else pure roles

/-- Registers the creator of a new community as its first member. -/
def registerCreator (creatorKey creatorDisplayName : String) (community : HostedCommunity) :
    HostM HostedCommunity := do
  if creatorKey ≠ "" ∧ community.creatorPseudonymHex = "" ∧
      findMember community.members creatorKey = none then do
    insertMemberRows env communityId creatorKey creatorDisplayName (defaultRoleIds true)
    executeIgnoring (Database.updateCommunity communityId · fun row =>
      { row with creatorPseudonym := creatorKey })
    pure { community with
      creatorPseudonymHex := creatorKey
      members := community.members ++ [{
        pseudonymKeyHex := creatorKey, displayName := creatorDisplayName
        roleIds := defaultRoleIds true, joinedAt := env.timestampNow, routeBlob := none
        timeoutUntil := none }] }
  else pure community

def communityRow (db : Database) : Option CommunityRow :=
  db.hostedCommunities.find? (·.id == communityId)

/-- Loads or creates everything and starts hosting. `setup` is the outcome of the setup of the DHT
record and the private route. -/
def hostNewly (name creatorKey creatorDisplayName : String) (setup : Except HostError Unit) :
    HostM Unit := do
  executeIgnoring fun db => db.insertCommunity
    { id := communityId, name := name, description := "", creatorPseudonym := "" }
  let mek ← loadOrCreateMek env communityId
  let channels ← load (loadChannelsFromDb communityId)
  let roles ← loadOrCreateRoles communityId
  let members ← load (loadMembersFromDb env communityId)
  ofExcept setup
  let description ← query (communityRow communityId)
  let creator ← query (communityRow communityId)
  let community ← registerCreator env communityId creatorKey creatorDisplayName
    { communityId := communityId, name := name
      description := description.join.elim "" CommunityRow.description, mek := mek
      members := members, channels := channels, roles := roles
      creatorPseudonymHex := creator.join.elim "" CommunityRow.creatorPseudonym }
  setCommunity communityId community

def hostCommunity (name creatorKey creatorDisplayName : String) (setup : Except HostError Unit) :
    HostM Unit := do
  let community ← lookupCommunity communityId
  match community with
  | some _ => pure ()
  | none => hostNewly env communityId name creatorKey creatorDisplayName setup

def unhostCommunity : HostM Unit := do
  match ← lookupCommunity communityId with
  | none => pure ()
  | some _ => do
    modify fun state => { state with hosted := state.hosted.erase communityId }
    executeIgnoring (Database.deleteCommunity communityId)

/-- One event at the server. A restart loses what is only in memory. -/
inductive ServerEvent where
  | restart
  | unhost (communityId : String)
  | host (env : Environment) (communityId name creatorKey creatorDisplayName : String)
      (setup : Except HostError Unit)
  | request (incoming : IncomingRequest)

def handleEvent (state : ServerState) : ServerEvent → ServerState
  | .restart => { state with hosted := ∅ }
  | .unhost communityId => Result.state ((unhostCommunity communityId).run state)
  | .host env communityId name creatorKey creatorDisplayName setup =>
    Result.state <|
      (hostCommunity env communityId name creatorKey creatorDisplayName setup).run state
  | .request incoming => serve state incoming

def emptyDatabase : Database :=
  { hostedCommunities := [], serverMembers := [], serverMek := [], serverChannels := []
    serverMessages := [], bannedMembers := [], serverRoles := [], serverMemberRoles := []
    serverChannelOverwrites := [], serverMemberTimeouts := [] }

/-- A server at its first start. -/
def ServerState.initial (dbFaults : List Bool) : ServerState :=
  { hosted := ∅, db := emptyDatabase, sent := [], dbFaults := dbFaults }

/-- The states a server comes to from its first start. -/
def Reachable (state : ServerState) : Prop :=
  ∃ dbFaults events, state = Runs.final handleEvent (ServerState.initial dbFaults) events

/-! ## Sample requests -/

def sampleEnvironment : Environment := { now := 1000, mekKey := [], channelSuffix := "" }

def hostedByAlice : ServerState :=
  handleEvent (ServerState.initial [])
    (.host sampleEnvironment "c" "Community" "alice" "Alice" (.ok ()))

/-- A request over the local socket to the community `c`. -/
def sampleRequest (sender : String) (request : CommunityRequest) : IncomingRequest :=
  { env := sampleEnvironment, sender := sender, request := request
    routing :=
      { ipcCommunityId := some "c", routeCommunityId := none, memberCommunityId := none } }

/-- A fact about the community `c` in a state, false when it is not hosted. -/
def inSample (state : ServerState) (test : HostedCommunity → Bool) : Bool :=
  (state.hosted.lookup "c").any test

theorem test_of_inSample {state : ServerState} {test : HostedCommunity → Bool}
    {community : HostedCommunity} (h : inSample state test = true)
    (hCommunity : state.hosted.lookup "c" = some community) : test community = true := by
  unfold inSample at h
  rwa [hCommunity] at h

theorem exists_of_inSample {state : ServerState} {test : HostedCommunity → Bool}
    (h : inSample state test = true) : ∃ community, state.hosted.lookup "c" = some community := by
  unfold inSample at h
  cases hCommunity : state.hosted.lookup "c" with
  | none => rw [hCommunity] at h; cases h
  | some community => exact ⟨community, rfl⟩

end Rekindle.Server
