import Rekindle.Library.Interleaving
import Rekindle.Server.Hosting

/-! # Hosting as a sequence of sections

The start-up of the server and the local socket host communities in tasks of their own. A call holds
a lock for one section at a time; what it has loaded so far is its own.
-/
namespace Rekindle.Server
set_option autoImplicit false
open Fallible Interleaving

structure HostCall where
  env : Environment
  communityId : String
  name : String
  creatorKey : String
  creatorDisplayName : String
  /-- The outcome of the setup of the DHT record and the private route. -/
  setup : Except HostError Unit

inductive HostStage where
  | check
  | insertRow
  | loadKey
  | createKey
  | loadChannels
  | loadRoles
  | createRoles
  | loadMembers
  | setUp
  | loadDetails
  | registerCreator
  | insert
  deriving DecidableEq

structure HostTask where
  call : HostCall
  stage : HostStage
  /-- What the call has loaded. -/
  community : HostedCommunity

def HostCall.blank (call : HostCall) : HostedCommunity :=
  { communityId := call.communityId, name := call.name, description := "", mek := ⟨0, []⟩
    members := [], channels := [], roles := [], creatorPseudonymHex := "" }

def HostCall.start (call : HostCall) : HostTask :=
  { call := call, stage := .check, community := call.blank }

/-- The description and the creator, under one lock. -/
def loadDetails (call : HostCall) (community : HostedCommunity) : HostM HostedCommunity := do
  let description ← query (communityRow call.communityId)
  let creator ← query (communityRow call.communityId)
  pure { community with
    description := description.join.elim "" CommunityRow.description
    creatorPseudonymHex := creator.join.elim "" CommunityRow.creatorPseudonym }

namespace HostTask

def next (task : HostTask) (stage : HostStage) (community : HostedCommunity) : HostTask ⊕ Unit :=
  .inl { task with stage := stage, community := community }

/-- The next section of a call. -/
def advance (task : HostTask) : HostM (HostTask ⊕ Unit) :=
  let call := task.call
  let community := task.community
  match task.stage with
  | .check => do
    let hosted ← lookupCommunity call.communityId
    pure (if hosted.isSome then .inr () else task.next .insertRow community)
  | .insertRow => do
    executeIgnoring fun db => db.insertCommunity
      { id := call.communityId, name := call.name, description := "", creatorPseudonym := "" }
    pure (task.next .loadKey community)
  | .loadKey => do
    let row ← query (loadLatestMek call.communityId)
    pure (row.join.elim (task.next .createKey community) fun mek =>
      task.next .loadChannels { community with mek := mek })
  | .createKey => do
    let mek ← createInitialMek call.env call.communityId
    pure (task.next .loadChannels { community with mek := mek })
  | .loadChannels => do
    let channels ← load (loadChannelsFromDb call.communityId)
    pure (task.next .loadRoles { community with channels := channels })
  | .loadRoles => do
    let roles ← load (loadRolesFromDb call.communityId)
    pure (if roles = [] then task.next .createRoles community
      else task.next .loadMembers { community with roles := roles })
  | .createRoles => do
    let roles ← createDefaultRoles call.communityId
    pure (task.next .loadMembers { community with roles := roles })
  | .loadMembers => do
    let members ← load (loadMembersFromDb call.env call.communityId)
    pure (task.next .setUp { community with members := members })
  | .setUp => do
    ofExcept call.setup
    pure (task.next .loadDetails community)
  | .loadDetails => do
    let community ← loadDetails call community
    pure (task.next .registerCreator community)
  | .registerCreator => do
    let community ← registerCreator call.env call.communityId call.creatorKey call.creatorDisplayName
      community
    pure (task.next .insert community)
  | .insert => do
    setCommunity call.communityId community
    pure (.inr ())

end HostTask

/-! ## Alone, the sections are the call -/

section
variable (call : HostCall) (community : HostedCommunity)

/-- A call from its setup on. -/
def finishHosting : HostM Unit := do
  ofExcept call.setup
  let community ← loadDetails call community
  let community ← registerCreator call.env call.communityId call.creatorKey call.creatorDisplayName
    community
  setCommunity call.communityId community

def loadMembersAndFinish : HostM Unit := do
  let members ← load (loadMembersFromDb call.env call.communityId)
  finishHosting call { community with members := members }

def loadRolesAndFinish : HostM Unit := do
  let roles ← loadOrCreateRoles call.communityId
  loadMembersAndFinish call { community with roles := roles }

def loadChannelsAndFinish : HostM Unit := do
  let channels ← load (loadChannelsFromDb call.communityId)
  loadRolesAndFinish call { community with channels := channels }

theorem finish_implements :
    Implements HostTask.advance ⟨call, .setUp, community⟩ (finishHosting call community) :=
  .of_going rfl fun _ => .of_going rfl fun _ => .of_going rfl fun _ => .of_last rfl

theorem loadMembers_implements :
    Implements HostTask.advance ⟨call, .loadMembers, community⟩ (loadMembersAndFinish call community) :=
  .of_going rfl fun _ => finish_implements call _

theorem loadRoles_implements :
    Implements HostTask.advance ⟨call, .loadRoles, community⟩ (loadRolesAndFinish call community) := by
  have hHandler : loadRolesAndFinish call community = (do
      let roles ← load (loadRolesFromDb call.communityId)
      if roles = [] then do
        let roles ← createDefaultRoles call.communityId
        loadMembersAndFinish call { community with roles := roles }
      else loadMembersAndFinish call { community with roles := roles }) := by
    unfold loadRolesAndFinish loadOrCreateRoles
    rw [bind_assoc]
    refine bind_congr fun roles => ?_
    split
    · rfl
    · exact pure_bind _ _
  rw [hHandler]
  refine .of_section rfl fun roles => .inl ?_
  split
  · exact ⟨_, rfl, .of_going rfl fun _ => loadMembers_implements call _⟩
  · exact ⟨_, rfl, loadMembers_implements call _⟩

theorem loadChannels_implements :
    Implements HostTask.advance ⟨call, .loadChannels, community⟩ (loadChannelsAndFinish call community) :=
  .of_going rfl fun _ => loadRoles_implements call _

theorem hostNewly_eq : hostNewly call.env call.communityId call.name call.creatorKey
    call.creatorDisplayName call.setup = (do
      executeIgnoring fun db => db.insertCommunity
        { id := call.communityId, name := call.name, description := "", creatorPseudonym := "" }
      let mek ← loadOrCreateMek call.env call.communityId
      loadChannelsAndFinish call { call.blank with mek := mek }) := by
  simp only [hostNewly, loadChannelsAndFinish, loadRolesAndFinish, loadMembersAndFinish, finishHosting,
    loadDetails, bind_assoc, pure_bind]
  rfl

/-- A call that runs alone does what `host_community` does. -/
theorem host_implements :
    Implements HostTask.advance call.start (hostCommunity call.env call.communityId call.name call.creatorKey
      call.creatorDisplayName call.setup) := by
  have hKey : ∀ f : MediaEncryptionKey → HostM Unit, (loadOrCreateMek call.env call.communityId >>= f) = (do
      let row ← query (loadLatestMek call.communityId)
      row.join.elim (createInitialMek call.env call.communityId >>= f) f) := by
    intro f
    unfold loadOrCreateMek
    rw [bind_assoc]
    refine bind_congr fun row => ?_
    cases row.join with
    | none => rfl
    | some mek => exact pure_bind _ _
  unfold hostCommunity
  refine .of_section rfl fun hosted => ?_
  cases hosted with
  | some community => exact .inr ⟨(), rfl, rfl⟩
  | none =>
    refine .inl ⟨_, rfl, ?_⟩
    change Implements _ _ (hostNewly call.env call.communityId call.name call.creatorKey
      call.creatorDisplayName call.setup)
    rw [hostNewly_eq]
    refine .of_going rfl fun _ => ?_
    rw [hKey]
    refine .of_section rfl fun row => .inl ?_
    cases hRow : row.join with
    | none => exact ⟨_, rfl, .of_going rfl fun _ => loadChannels_implements call _⟩
    | some mek => exact ⟨_, rfl, loadChannels_implements call _⟩

end

end Rekindle.Server
