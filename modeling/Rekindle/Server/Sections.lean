import Rekindle.Library.Interleaving
import Rekindle.Server.Dispatch

/-! # Requests as sequences of sections

The server spawns a task for each request. A task holds the lock of the hosted communities, or that
of the database, for one section at a time, and between two sections other tasks may run theirs.
-/
namespace Rekindle.Server
set_option autoImplicit false
open Fallible Interleaving

inductive JoinStage where
  | find (viaIpc : Bool)
  | checkBanned
  | rejoin
  | countMembers
  | insertRows (isFirstMember : Bool)
  | push (isFirstMember : Bool)
  | announce (joined : JoinResult)

inductive DepartureStage where
  | verify
  | deleteRows
  | remove
  | announce
  | readGeneration
  | announceKey (generation : UInt64)

/-- What a task does next. -/
inductive Job where
  | join (displayName : String) (routeBlob : Option (List UInt8)) (stage : JoinStage)
  | depart (leaver : String) (stage : DepartureStage)
  | checkKick (target : String)
  | checkBan (target : String)
  | recordBan (target displayName : String)
  | unban (target : String)
  | rotateKey
  | announceKey (generation : UInt64)
  | requestKey

structure Task where
  env : Environment
  communityId : String
  sender : String
  job : Job

/-! ## Sections -/

section
variable (env : Environment) (communityId sender : String)

def checkHosted (viaIpc : Bool) : ServerM Unit := do
  let community ← lookupCommunity communityId
  ofExcept (refuseIf (viaIpc ∧ community.isNone) communityNotFound)

def countMembers : ServerM Bool := do
  let community ← lookupCommunity communityId
  pure (community.any fun community => community.members.isEmpty)

/-- The second lock section of a join. -/
def pushOrFail (isFirstMember : Bool) (displayName : String) (routeBlob : Option (List UInt8)) :
    ServerM JoinResult := do
  let joined ← pushMember env communityId sender isFirstMember displayName routeBlob
  ofExcept (orThrow joined communityNotFound)

def currentGeneration : ServerM (Option UInt64) := do
  let community ← lookupCommunity communityId
  pure (community.map fun community => community.mek.generation)

def checkKick (target : String) : ServerM Unit := do
  let community ← getCommunity communityId ⟨403, "not a member"⟩
  ofExcept (checkPermission env.now community sender kickMembers)
  ofExcept (refuseIf (sender = target) ⟨400, "cannot kick yourself — use Leave instead"⟩)
  ofExcept (checkHierarchy community sender target)

/-- Returns the name for the ban record. -/
def checkBan (target : String) : ServerM String := do
  let community ← openCommunity env communityId sender banMembers
  ofExcept (refuseIf (sender = target) ⟨400, "cannot ban yourself"⟩)
  ofExcept (checkHierarchy community sender target)
  pure ((findMember community.members target).elim "" ServerMember.displayName)

def recordBan (target displayName : String) : ServerM Unit :=
  executeIgnoring fun db => db.insertOrReplaceBan
    { communityId := communityId, pseudonymKeyHex := target, displayName := displayName
      bannedAt := env.timestampNow }

def rotateKey : ServerM UInt64 := do
  let community ← openCommunity env communityId sender manageCommunity
  let mek ← rotateMek env communityId (community.mek.generation + 1)
  setCommunity communityId { community with mek := mek }
  pure mek.generation

end

/-! ## Tasks -/

namespace Task

def next (task : Task) (job : Job) : Task ⊕ CommunityResponse := .inl { task with job := job }

def joinSection (task : Task) (displayName : String) (routeBlob : Option (List UInt8)) :
    JoinStage → ServerM (Task ⊕ CommunityResponse)
  | .find viaIpc => do
    checkHosted task.communityId viaIpc
    pure (task.next (.join displayName routeBlob .checkBanned))
  | .checkBanned => do
    checkNotBanned task.communityId task.sender
    pure (task.next (.join displayName routeBlob .rejoin))
  | .rejoin => do
    let response ← handleRejoin task.communityId task.sender routeBlob
    pure (response.elim (task.next (.join displayName routeBlob .countMembers)) .inr)
  | .countMembers => do
    let isFirstMember ← countMembers task.communityId
    pure (task.next (.join displayName routeBlob (.insertRows isFirstMember)))
  | .insertRows isFirstMember => do
    insertMemberRows task.env task.communityId task.sender displayName (defaultRoleIds isFirstMember)
    pure (task.next (.join displayName routeBlob (.push isFirstMember)))
  | .push isFirstMember => do
    let joined ← pushOrFail task.env task.communityId task.sender isFirstMember displayName routeBlob
    pure (task.next (.join displayName routeBlob (.announce joined)))
  | .announce joined => do
    broadcastToMembers task.communityId task.sender
      (.memberJoined task.communityId task.sender displayName joined.roleIds)
    pure (.inr (.joined joined.mekPayload joined.mekGeneration joined.channels joined.roleIds
      joined.roles))

def departureSection (task : Task) (leaver : String) :
    DepartureStage → ServerM (Task ⊕ CommunityResponse)
  | .verify => do
    verifyMembershipIfHosted task.communityId leaver
    pure (task.next (.depart leaver .deleteRows))
  | .deleteRows => do
    executeIgnoring (Database.deleteMember task.communityId leaver)
    pure (task.next (.depart leaver .remove))
  | .remove => do
    removeMember task.env task.communityId leaver
    pure (task.next (.depart leaver .announce))
  | .announce => do
    broadcastToMembers task.communityId leaver (.memberRemoved task.communityId leaver)
    pure (task.next (.depart leaver .readGeneration))
  | .readGeneration => do
    let generation ← currentGeneration task.communityId
    pure (generation.elim (.inr .ok) fun generation =>
      task.next (.depart leaver (.announceKey generation)))
  | .announceKey generation => do
    broadcastToMembers task.communityId leaver (.mekRotated task.communityId generation)
    pure (.inr .ok)

/-- The next section of a task. -/
def advance (task : Task) : ServerM (Task ⊕ CommunityResponse) :=
  match task.job with
  | .join displayName routeBlob stage => task.joinSection displayName routeBlob stage
  | .depart leaver stage => task.departureSection leaver stage
  | .checkKick target => do
    checkKick task.env task.communityId task.sender target
    pure (task.next (.depart target .verify))
  | .checkBan target => do
    let displayName ← checkBan task.env task.communityId task.sender target
    pure (task.next (.recordBan target displayName))
  | .recordBan target displayName => do
    recordBan task.env task.communityId target displayName
    pure (task.next (.depart target .verify))
  | .unban target => do
    let response ← handleUnban task.env task.communityId task.sender target
    pure (.inr response)
  | .rotateKey => do
    let generation ← rotateKey task.env task.communityId task.sender
    pure (task.next (.announceKey generation))
  | .announceKey generation => do
    broadcastToMembers task.communityId "" (.mekRotated task.communityId generation)
    pure (.inr .ok)
  | .requestKey => do
    let response ← handleRequestMek task.communityId task.sender
    pure (.inr response)

end Task

/-- The requests about the roster and the key. -/
inductive RosterRequest where
  | join (displayName : String) (routeBlob : Option (List UInt8)) (viaIpc : Bool)
  | leave
  | kick (target : String)
  | ban (target : String)
  | unban (target : String)
  | rotateMek
  | requestMek

/-- A request, with the sender that its signature proves and the community that it is about. -/
structure RosterCall where
  env : Environment
  communityId : String
  sender : String
  request : RosterRequest

def RosterCall.start (call : RosterCall) : Task :=
  { env := call.env, communityId := call.communityId, sender := call.sender
    job := match call.request with
      | .join displayName routeBlob viaIpc => .join displayName routeBlob (.find viaIpc)
      | .leave => .depart call.sender .verify
      | .kick target => .checkKick target
      | .ban target => .checkBan target
      | .unban target => .unban target
      | .rotateMek => .rotateKey
      | .requestMek => .requestKey }

def RosterCall.routing (call : RosterCall) : Routing :=
  match call.request with
  | .join _ _ false => ⟨none, some call.communityId, none⟩
  | _ => ⟨some call.communityId, none, none⟩

def RosterCall.communityRequest (call : RosterCall) : CommunityRequest :=
  match call.request with
  | .join displayName routeBlob _ => .join call.sender displayName routeBlob
  | .leave => .member .leave
  | .kick target => .member (.kick target)
  | .ban target => .member (.ban target)
  | .unban target => .member (.unban target)
  | .rotateMek => .member .rotateMek
  | .requestMek => .member .requestMek

/-! ## Alone, the sections are the handlers -/

section
variable (env : Environment) (communityId sender : String)

theorem broadcastDeparture_eq (leaver : String) :
    (do broadcastDeparture communityId leaver; pure .ok : ServerM CommunityResponse) = (do
      broadcastToMembers communityId leaver (.memberRemoved communityId leaver)
      let generation ← currentGeneration communityId
      generation.elim (pure .ok) fun generation => do
        broadcastToMembers communityId leaver (.mekRotated communityId generation)
        pure .ok) := by
  simp only [broadcastDeparture, currentGeneration, bind_assoc, pure_bind]
  refine bind_congr fun _ => bind_congr fun community => ?_
  cases community with
  | none => exact pure_bind _ _
  | some community => rfl

theorem departure_implements (leaver : String) :
    Implements Task.advance ⟨env, communityId, sender, .depart leaver .verify⟩
      (handleLeave env communityId leaver) := by
  refine .of_going rfl fun _ => .of_going rfl fun _ => .of_going rfl fun _ => ?_
  rw [broadcastDeparture_eq]
  refine .of_going rfl fun _ => .of_section rfl fun generation => ?_
  cases generation with
  | none => exact .inr ⟨.ok, rfl, rfl⟩
  | some generation => exact .inl ⟨_, rfl, .of_section rfl fun _ => .inr ⟨.ok, rfl, rfl⟩⟩

theorem join_implements {routing : Routing} (hTarget : routing.joinTarget = some communityId)
    (displayName : String) (routeBlob : Option (List UInt8)) :
    Implements Task.advance
      ⟨env, communityId, sender, .join displayName routeBlob (.find routing.ipcCommunityId.isSome)⟩
      (handleJoin env sender routing displayName routeBlob) := by
  have hHandler : handleJoin env sender routing displayName routeBlob = (do
      checkHosted communityId routing.ipcCommunityId.isSome
      checkNotBanned communityId sender
      let response ← handleRejoin communityId sender routeBlob
      response.elim (joinAsNewMember env communityId sender displayName routeBlob) pure) := by
    have hFound : (ofExcept (orThrow (some communityId)
        ⟨404, "no hosted community matches this route"⟩) : ServerM String) = pure communityId := rfl
    unfold handleJoin checkHosted
    rw [hTarget, hFound, pure_bind, bind_assoc]
    refine bind_congr fun _ => bind_congr fun _ => bind_congr fun _ => bind_congr fun response => ?_
    cases response <;> rfl
  have hNew : joinAsNewMember env communityId sender displayName routeBlob = (do
      let isFirstMember ← countMembers communityId
      insertMemberRows env communityId sender displayName (defaultRoleIds isFirstMember)
      let joined ← pushOrFail env communityId sender isFirstMember displayName routeBlob
      broadcastToMembers communityId sender
        (.memberJoined communityId sender displayName joined.roleIds)
      pure (.joined joined.mekPayload joined.mekGeneration joined.channels joined.roleIds
        joined.roles)) := by
    simp only [joinAsNewMember, addNewMember, countMembers, pushOrFail, bind_assoc, pure_bind]
  rw [hHandler]
  refine .of_going rfl fun _ => .of_going rfl fun _ => .of_section rfl fun response => ?_
  cases response with
  | some response => exact .inr ⟨response, rfl, rfl⟩
  | none =>
    refine .inl ⟨_, rfl, ?_⟩
    change Implements _ _ (joinAsNewMember env communityId sender displayName routeBlob)
    rw [hNew]
    exact .of_going rfl fun _ => .of_going rfl fun _ => .of_going rfl fun _ =>
      .of_section rfl fun _ => .inr ⟨_, rfl, rfl⟩

theorem kick_implements (target : String) :
    Implements Task.advance ⟨env, communityId, sender, .checkKick target⟩
      (handleKick env communityId sender target) := by
  have hHandler : handleKick env communityId sender target = (do
      checkKick env communityId sender target
      handleLeave env communityId target) := by
    simp only [handleKick, checkKick, bind_assoc]
  rw [hHandler]
  exact .of_going rfl fun _ => departure_implements env communityId sender target

theorem ban_implements (target : String) :
    Implements Task.advance ⟨env, communityId, sender, .checkBan target⟩
      (handleBan env communityId sender target) := by
  have hHandler : handleBan env communityId sender target = (do
      let displayName ← checkBan env communityId sender target
      recordBan env communityId target displayName
      handleLeave env communityId target) := by
    simp only [handleBan, checkBan, recordBan, bind_assoc, pure_bind]
  rw [hHandler]
  exact .of_going rfl fun _ => .of_going rfl fun _ => departure_implements env communityId sender target

theorem rotate_implements :
    Implements Task.advance ⟨env, communityId, sender, .rotateKey⟩
      (handleRotateMek env communityId sender) := by
  have hHandler : handleRotateMek env communityId sender = (do
      let generation ← rotateKey env communityId sender
      broadcastToMembers communityId "" (.mekRotated communityId generation)
      pure .ok) := by
    simp only [handleRotateMek, rotateKey, bind_assoc, pure_bind]
  rw [hHandler]
  exact .of_going rfl fun _ => .of_section rfl fun _ => .inr ⟨_, rfl, rfl⟩

end

/-- A task that runs alone does what the handler of its request does. -/
theorem start_implements (call : RosterCall) :
    Implements Task.advance call.start
      (dispatchRequest call.env call.sender call.routing call.communityRequest) := by
  obtain ⟨env, communityId, sender, request⟩ := call
  cases request with
  | join displayName routeBlob viaIpc =>
    have hDispatch : ∀ routing, dispatchRequest env sender routing (.join sender displayName routeBlob) =
        handleJoin env sender routing displayName routeBlob := by
      intro routing
      have hSame : refuseIf (sender ≠ sender)
          (⟨403, "pseudonym mismatch: claimed key does not match envelope signature"⟩ : RpcError) =
          .ok () := refuseIf_eq_ok_iff.mpr fun h => h rfl
      simp only [dispatchRequest, handleJoinRequest]
      rw [hSame]
      rfl
    cases viaIpc with
    | false =>
      exact (hDispatch _).symm ▸
        @join_implements env communityId sender ⟨none, some communityId, none⟩ rfl displayName routeBlob
    | true =>
      exact (hDispatch _).symm ▸
        @join_implements env communityId sender ⟨some communityId, none, none⟩ rfl displayName routeBlob
  | leave => exact departure_implements env communityId sender sender
  | kick target => exact kick_implements env communityId sender target
  | ban target => exact ban_implements env communityId sender target
  | unban target => exact .of_last rfl
  | rotateMek => exact rotate_implements env communityId sender
  | requestMek => exact .of_last rfl

end Rekindle.Server
