import Rekindle.Server.SectionEffects

/-! # What a section does in memory

Four sections change the community in memory, each in its own way, and the others change nothing
there.
-/
namespace Rekindle.Server
set_option autoImplicit false
open Fallible Interleaving

def SameHosted (before after : ServerState) : Prop := after.hosted = before.hosted

instance : Std.Refl SameHosted := ⟨fun _ => rfl⟩

instance : IsTrans ServerState SameHosted := ⟨fun _ _ _ hFirst hSecond => hSecond.trans hFirst⟩

section
variable {ε α : Type}

theorem sameHosted_query (read : Database → α) :
    Keeps SameHosted (query read : EStateM ε ServerState (Option α)) := fun _ => rfl

theorem sameHosted_execute (statement : Database → Option Database) :
    Keeps SameHosted (execute statement : EStateM ε ServerState Bool) := fun _ => rfl

theorem sameHosted_executeIgnoring (statement : Database → Option Database) :
    Keeps SameHosted (executeIgnoring statement : EStateM ε ServerState Unit) :=
  (sameHosted_execute statement).bind fun _ => keeps_pure _

theorem sameHosted_load (read : Database → α) : Keeps SameHosted (load read) :=
  (sameHosted_query read).bind fun _ => keeps_ofExcept _

theorem sameHosted_lookupCommunity (communityId : String) :
    Keeps SameHosted (lookupCommunity communityId : EStateM ε ServerState _) := fun _ => rfl

theorem sameHosted_broadcastToMembers (communityId exclude : String) (broadcast : CommunityBroadcast) :
    Keeps SameHosted (broadcastToMembers communityId exclude broadcast : EStateM ε ServerState Unit) :=
  fun _ => rfl

theorem sameHosted_insertMemberRows (env : Environment) (communityId pseudonym displayName : String)
    (roleIds : List UInt32) :
    Keeps SameHosted (insertMemberRows env communityId pseudonym displayName roleIds :
      EStateM ε ServerState Unit) :=
  (sameHosted_executeIgnoring _).bind fun _ => keeps_list_forM _ fun _ => sameHosted_executeIgnoring _

end

section
variable {env : Environment} {communityId sender : String}

theorem sameHosted_getCommunity (missing : RpcError) :
    Keeps SameHosted (getCommunity communityId missing : ServerM HostedCommunity) :=
  (sameHosted_lookupCommunity _).bind fun _ => keeps_ofExcept _

theorem sameHosted_openCommunity (required : Permissions) :
    Keeps SameHosted (openCommunity env communityId sender required) :=
  (sameHosted_getCommunity _).bind fun _ => (keeps_ofExcept _).bind fun _ =>
    (keeps_ofExcept _).bind fun _ => keeps_pure _

end

/-- The community is returned, or the sender is refused. -/
theorem openCommunity_run (env : Environment) (communityId sender : String) (required : Permissions)
    (s : ServerState) :
    (∃ e, (openCommunity env communityId sender required).run s = .error e s) ∨
      ∃ community, s.hosted.lookup communityId = some community ∧
        (openCommunity env communityId sender required).run s = .ok community s := by
  unfold openCommunity getCommunity
  rw [bind_assoc, run_bind_of_ok _ (rfl : (lookupCommunity communityId : ServerM _).run s = .ok _ s)]
  cases s.hosted.lookup communityId with
  | none => exact .inl ⟨communityNotFound, rfl⟩
  | some community =>
    have hFound : orThrow (some community) communityNotFound = .ok community := rfl
    rw [hFound, ofExcept_ok_bind]
    cases hMember : verifyMembership community sender with
    | error e => exact .inl ⟨e, rfl⟩
    | ok _ =>
      rw [ofExcept_ok_bind]
      cases hAllowed : checkPermission env.now community sender required with
      | error e => exact .inl ⟨e, rfl⟩
      | ok _ => exact .inr ⟨community, rfl, rfl⟩

/-- The community as a section leaves it that writes to memory. -/
def Task.leaves (task : Task) (community : HostedCommunity) : HostedCommunity :=
  match task.job with
  | .join _ (some blob) .rejoin => { community with
      members := updateMember community.members task.sender fun member =>
        { member with routeBlob := some blob } }
  | .join displayName routeBlob (.push isFirstMember) => { community with
      creatorPseudonymHex := if isFirstMember then task.sender else community.creatorPseudonymHex
      members := community.members ++ [{
        pseudonymKeyHex := task.sender, displayName := displayName
        roleIds := defaultRoleIds isFirstMember, joinedAt := task.env.timestampNow
        routeBlob := routeBlob, timeoutUntil := none }] }
  | .depart leaver .remove => { community with
      members := Keyed.remove ServerMember.pseudonymKeyHex leaver community.members
      mek := { generation := community.mek.generation + 1, key := task.env.mekKey } }
  | .rotateKey => { community with
      mek := { generation := community.mek.generation + 1, key := task.env.mekKey } }
  | _ => community

/-- A task that has written what is announced goes on. -/
structure Task.Writes (task : Task) (before : ServerState)
    (result : EStateM.Result RpcError ServerState (Task ⊕ CommunityResponse)) : Prop where
  written : ∃ community, before.hosted.lookup task.communityId = some community ∧
    (Result.state result).hosted = before.hosted.insert task.communityId (task.leaves community)
  goesOn : (∃ displayName routeBlob, task.job = .join displayName routeBlob .rejoin) ∨
    ∃ rest, GoesOn result rest

section
variable {task : Task} {s : ServerState}

theorem rejoin_section {displayName : String} {routeBlob : Option (List UInt8)}
    (hJob : task.job = .join displayName routeBlob .rejoin) :
    SameHosted s (Result.state (task.advance.run s)) ∨ task.Writes s (task.advance.run s) := by
  have hRun : Result.state (task.advance.run s) =
      Result.state ((handleRejoin task.communityId task.sender routeBlob).run s) := by
    unfold Task.advance
    rw [hJob]
    exact state_bind_pure _ _ s
  cases hCommunity : s.hosted.lookup task.communityId with
  | none =>
    refine .inl ?_
    rw [hRun]
    unfold handleRejoin
    rw [run_bind_of_ok _ (rfl : (lookupCommunity task.communityId : ServerM _).run s = .ok _ s), hCommunity]
    rfl
  | some community =>
    cases hMember : findMember community.members task.sender with
    | none =>
      refine .inl ?_
      rw [hRun]
      unfold handleRejoin
      rw [run_bind_of_ok _ (rfl : (lookupCommunity task.communityId : ServerM _).run s = .ok _ s), hCommunity]
      dsimp only
      rw [hMember]
      rfl
    | some member =>
      cases routeBlob with
      | none =>
        refine .inl ?_
        rw [hRun]
        unfold handleRejoin
        rw [run_bind_of_ok _ (rfl : (lookupCommunity task.communityId : ServerM _).run s = .ok _ s), hCommunity]
        dsimp only
        rw [hMember]
        rfl
      | some blob =>
        refine .inr ⟨⟨community, hCommunity, ?_⟩, .inl ⟨displayName, some blob, hJob⟩⟩
        rw [hRun]
        unfold handleRejoin
        rw [run_bind_of_ok _ (rfl : (lookupCommunity task.communityId : ServerM _).run s = .ok _ s), hCommunity]
        dsimp only
        rw [hMember]
        unfold Task.leaves
        rw [hJob]
        rfl

theorem push_section {displayName : String} {routeBlob : Option (List UInt8)} {isFirstMember : Bool}
    (hJob : task.job = .join displayName routeBlob (.push isFirstMember)) :
    SameHosted s (Result.state (task.advance.run s)) ∨ task.Writes s (task.advance.run s) := by
  have hAdvance : task.advance = (do
      let joined ← pushOrFail task.env task.communityId task.sender isFirstMember displayName routeBlob
      pure (task.next (.join displayName routeBlob (.announce joined)))) := by
    unfold Task.advance
    rw [hJob]
    rfl
  cases hCommunity : s.hosted.lookup task.communityId with
  | none =>
    have hGone : (pushMember task.env task.communityId task.sender isFirstMember displayName routeBlob).run s =
        .ok none s := by
      unfold pushMember
      rw [run_bind_of_ok _ (rfl : (lookupCommunity task.communityId : ServerM _).run s = .ok _ s), hCommunity]
      rfl
    have hRun : (pushOrFail task.env task.communityId task.sender isFirstMember displayName routeBlob).run s =
        .error communityNotFound s := by
      unfold pushOrFail
      rw [run_bind_of_ok _ hGone]
      rfl
    refine .inl ?_
    rw [hAdvance, run_bind_of_error _ hRun]
    rfl
  | some community =>
    obtain ⟨t, hCreator, -, hHosted⟩ := @recordCreator_run s task.communityId task.sender isFirstMember
    obtain ⟨joined, u, hPushed, hWritten⟩ : ∃ joined u,
        (pushMember task.env task.communityId task.sender isFirstMember displayName routeBlob).run s =
          .ok (some joined) u ∧
        u.hosted = t.hosted.insert task.communityId (task.leaves community) := by
      unfold pushMember
      rw [run_bind_of_ok _ (rfl : (lookupCommunity task.communityId : ServerM _).run s = .ok _ s), hCommunity]
      dsimp only
      rw [run_bind_of_ok _ hCreator, Task.leaves, hJob]
      cases routeBlob with
      | none => exact ⟨_, _, rfl, rfl⟩
      | some blob => exact ⟨_, _, rfl, rfl⟩
    have hRun : task.advance.run s = .ok (task.next (.join displayName routeBlob (.announce joined))) u := by
      rw [hAdvance]
      unfold pushOrFail
      rw [bind_assoc, run_bind_of_ok _ hPushed]
      rfl
    refine .inr ⟨⟨community, hCommunity, ?_⟩, .inr ⟨_, u, hRun⟩⟩
    rw [hRun, Result.state_ok, hWritten, hHosted]

theorem remove_section {leaver : String} (hJob : task.job = .depart leaver .remove) :
    SameHosted s (Result.state (task.advance.run s)) ∨ task.Writes s (task.advance.run s) := by
  have hAdvance : task.advance = (do
      removeMember task.env task.communityId leaver
      pure (task.next (.depart leaver .announce))) := by
    unfold Task.advance
    rw [hJob]
    rfl
  cases hCommunity : s.hosted.lookup task.communityId with
  | none =>
    have hRun : (removeMember task.env task.communityId leaver).run s = .ok () s := by
      unfold removeMember
      rw [run_bind_of_ok _ (rfl : (lookupCommunity task.communityId : ServerM _).run s = .ok _ s), hCommunity]
      rfl
    refine .inl ?_
    rw [hAdvance, run_bind_of_ok _ hRun]
    rfl
  | some community =>
    obtain ⟨t, hRotated, hHosted, -⟩ :=
      @rotateMek_rows s task.env task.communityId (community.mek.generation + 1)
    have hRun : (removeMember task.env task.communityId leaver).run s = .ok ()
        { t with hosted := t.hosted.insert task.communityId (task.leaves community) } := by
      unfold removeMember
      rw [run_bind_of_ok _ (rfl : (lookupCommunity task.communityId : ServerM _).run s = .ok _ s), hCommunity]
      dsimp only
      rw [run_bind_of_ok _ hRotated, Task.leaves, hJob]
      rfl
    have hNext : task.advance.run s = .ok (task.next (.depart leaver .announce))
        { t with hosted := t.hosted.insert task.communityId (task.leaves community) } := by
      rw [hAdvance, run_bind_of_ok _ hRun]
      rfl
    refine .inr ⟨⟨community, hCommunity, ?_⟩, .inr ⟨_, _, hNext⟩⟩
    rw [hNext, Result.state_ok, hHosted]

theorem rotate_section (hJob : task.job = .rotateKey) :
    SameHosted s (Result.state (task.advance.run s)) ∨ task.Writes s (task.advance.run s) := by
  have hAdvance : task.advance = (do
      let community ← openCommunity task.env task.communityId task.sender manageCommunity
      let mek ← rotateMek task.env task.communityId (community.mek.generation + 1)
      setCommunity task.communityId { community with mek := mek }
      pure (task.next (.announceKey mek.generation))) := by
    unfold Task.advance
    rw [hJob]
    simp only [rotateKey, bind_assoc, pure_bind]
  rcases openCommunity_run task.env task.communityId task.sender manageCommunity s with ⟨e, hRefused⟩ | ⟨community, hCommunity, hOpened⟩
  · refine .inl ?_
    rw [hAdvance, run_bind_of_error _ hRefused]
    rfl
  · obtain ⟨t, hRotated, hHosted, -⟩ :=
      @rotateMek_rows s task.env task.communityId (community.mek.generation + 1)
    have hNext : task.advance.run s = .ok (task.next (.announceKey (community.mek.generation + 1)))
        { t with hosted := t.hosted.insert task.communityId (task.leaves community) } := by
      rw [hAdvance, run_bind_of_ok _ hOpened, run_bind_of_ok _ hRotated, Task.leaves, hJob]
      rfl
    refine .inr ⟨⟨community, hCommunity, ?_⟩, .inr ⟨_, _, hNext⟩⟩
    rw [hNext, Result.state_ok, hHosted]

/-- A section that changes the community in memory changes it as it is announced. -/
theorem section_writes (task : Task) (s : ServerState) :
    SameHosted s (Result.state (task.advance.run s)) ∨ task.Writes s (task.advance.run s) := by
  have hSame : ∀ {x : ServerM (Task ⊕ CommunityResponse)}, task.advance = x → Keeps SameHosted x →
      SameHosted s (Result.state (task.advance.run s)) ∨ task.Writes s (task.advance.run s) := by
    rintro _ rfl hKeeps
    exact .inl (hKeeps s)
  have hAdvance : task.advance = _ := Task.advance.eq_def task
  split at hAdvance
  next displayName routeBlob stage hJob =>
    cases stage with
    | find viaIpc =>
      exact hSame hAdvance (((sameHosted_lookupCommunity _).bind fun _ => keeps_ofExcept _).bind
        fun _ => keeps_pure _)
    | checkBanned =>
      exact hSame hAdvance (((sameHosted_query _).bind fun _ => keeps_ofExcept _).bind fun _ => keeps_pure _)
    | rejoin => exact rejoin_section hJob
    | countMembers =>
      exact hSame hAdvance (((sameHosted_lookupCommunity _).bind fun _ => keeps_pure _).bind
        fun _ => keeps_pure _)
    | insertRows isFirstMember =>
      exact hSame hAdvance ((sameHosted_insertMemberRows _ _ _ _ _).bind fun _ => keeps_pure _)
    | push isFirstMember => exact push_section hJob
    | announce joined =>
      exact hSame hAdvance ((sameHosted_broadcastToMembers _ _ _).bind fun _ => keeps_pure _)
  next leaver stage hJob =>
    cases stage with
    | verify =>
      exact hSame hAdvance (((sameHosted_lookupCommunity _).bind fun _ => keeps_ofExcept _).bind
        fun _ => keeps_pure _)
    | deleteRows => exact hSame hAdvance ((sameHosted_executeIgnoring _).bind fun _ => keeps_pure _)
    | remove => exact remove_section hJob
    | announce => exact hSame hAdvance ((sameHosted_broadcastToMembers _ _ _).bind fun _ => keeps_pure _)
    | readGeneration =>
      exact hSame hAdvance (((sameHosted_lookupCommunity _).bind fun _ => keeps_pure _).bind
        fun _ => keeps_pure _)
    | announceKey generation =>
      exact hSame hAdvance ((sameHosted_broadcastToMembers _ _ _).bind fun _ => keeps_pure _)
  next target hJob =>
    exact hSame hAdvance (((sameHosted_getCommunity _).bind fun _ => (keeps_ofExcept _).bind fun _ =>
      (keeps_ofExcept _).bind fun _ => keeps_ofExcept _).bind fun _ => keeps_pure _)
  next target hJob =>
    exact hSame hAdvance (((sameHosted_openCommunity _).bind fun _ => (keeps_ofExcept _).bind fun _ =>
      (keeps_ofExcept _).bind fun _ => keeps_pure _).bind fun _ => keeps_pure _)
  next target displayName hJob =>
    exact hSame hAdvance ((sameHosted_executeIgnoring _).bind fun _ => keeps_pure _)
  next target hJob =>
    exact hSame hAdvance (((sameHosted_openCommunity _).bind fun _ =>
      (sameHosted_executeIgnoring _).bind fun _ => keeps_pure _).bind fun _ => keeps_pure _)
  next hJob => exact rotate_section hJob
  next generation hJob =>
    exact hSame hAdvance ((sameHosted_broadcastToMembers _ _ _).bind fun _ => keeps_pure _)
  next hJob =>
    exact hSame hAdvance (((sameHosted_getCommunity _).bind fun _ => (keeps_ofExcept _).bind fun _ =>
      keeps_pure _).bind fun _ => keeps_pure _)

end

end Rekindle.Server
