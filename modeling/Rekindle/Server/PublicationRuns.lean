import Rekindle.Server.PublicationStates

/-! # Runs of publishing tasks -/
namespace Rekindle.Server
set_option autoImplicit false
open CapnpCodec Client Fallible Interleaving Json Runs
open Protocol (Bytes)

section
variable {α : Type}

theorem run_onServer_of_ok {x : ServerM α} {s : PublishedState} {a : α} {server : ServerState}
    (h : x.run s.server = .ok a server) : (onServer x).run s = .ok a { s with server := server } := by
  change onServer x s = _
  simp only [onServer, h]

theorem run_onServer_of_error {x : ServerM α} {s : PublishedState} {e : RpcError} {server : ServerState}
    (h : x.run s.server = .error e server) : (onServer x).run s = .error e { s with server := server } := by
  change onServer x s = _
  simp only [onServer, h]

theorem sameHosted_collectNames (order : List String) : Keeps SameHosted (collectNames order) := by
  induction order with
  | nil => exact keeps_pure _
  | cons communityId rest ih => exact (sameHosted_query _).bind fun _ => ih.bind fun _ => keeps_pure _

/-- A working database gives every name. -/
theorem collectNames_run (order : List String) (s : ServerState) :
    ∃ names t, (collectNames order).run s = .ok names t ∧ names.map Prod.fst = order ∧
      (true ∉ s.dbFaults.take order.length →
        ∀ entry ∈ names, entry.2 = (s.db.communityName entry.1).getD "") := by
  induction order generalizing s with
  | nil => exact ⟨[], s, rfl, rfl, fun _ _ h => nomatch h⟩
  | cons communityId rest ih =>
    obtain ⟨names, t, hRun, hOrder, hNames⟩ := ih { s with dbFaults := s.dbFaults.tail }
    have hQuery : (query (Database.communityName communityId) : ServerM _).run s =
        .ok (if s.dbFaults.headD false then none else some (s.db.communityName communityId))
          { s with dbFaults := s.dbFaults.tail } := rfl
    refine ⟨(communityId, (if s.dbFaults.headD false then none else
      some (s.db.communityName communityId)).join.getD "") :: names, t, ?_, ?_, fun hFaults => ?_⟩
    · unfold collectNames
      rw [run_bind_of_ok _ hQuery, run_bind_of_ok _ hRun]
      rfl
    · simp only [List.map_cons, hOrder]
    · have hHead : s.dbFaults.headD false = false := by
        cases hAll : s.dbFaults with
        | nil => rfl
        | cons fault faults =>
          rw [hAll, List.length_cons, List.take_succ_cons, List.mem_cons, not_or] at hFaults
          cases fault with
          | false => rfl
          | true => exact absurd rfl hFaults.1
      have hTail : true ∉ s.dbFaults.tail.take rest.length := by
        cases hAll : s.dbFaults with
        | nil => simp
        | cons fault faults =>
          rw [hAll, List.length_cons, List.take_succ_cons, List.mem_cons, not_or] at hFaults
          exact hFaults.2
      intro entry hEntry
      rcases List.mem_cons.mp hEntry with rfl | hRest
      · simp only [hHead, Bool.false_eq_true, if_false, Option.join_some]
      · exact hNames hTail entry hRest

end

section
variable {ownerKey : String → String} {communityId : String} {part : Part} {before : PublishedState}
  {community : HostedCommunity}

/-- After the turn the community is hosted, with the outcome for the part. -/
abbrev Comes (ownerKey : String → String) (communityId : String) (part : Part) (task : PublishingTask)
    (before : PublishedState) (community : HostedCommunity) : Prop :=
  ∃ changed,
    (Result.state ((task.advance ownerKey).run before)).server.hosted.lookup communityId = some changed ∧
    PublishingOutcome ownerKey communityId part task before (Result.state ((task.advance ownerKey).run before))
      (goesOn? ((task.advance ownerKey).run before)) community changed

theorem queuedValues_of_names {queue : PublicationQueue} {now : UInt64}
    (h : ∀ entry ∈ queue, entry.2.part ≠ .metadata) : queuedValues ownerKey communityId part queue now = [] := by
  refine List.flatMap_eq_nil_iff.mpr fun entry hEntry => ?_
  obtain ⟨owner, publication⟩ := entry
  cases publication with
  | metadata name => exact absurd rfl (h _ hEntry)
  | channels | memberRoster | mekBundle => rfl

theorem Task.publications_part (task : Task) : ∀ publication ∈ task.publications, publication.part ≠ .metadata := by
  intro publication h
  unfold Task.publications at h
  split at h <;> simp only [List.mem_cons, List.not_mem_nil, or_false] at h
  next => rw [h]; nofun
  next => rcases h with rfl | rfl <;> nofun
  next => rw [h]; nofun

theorem Task.held_publishingQueue (task : Task) (now : UInt64) (after : Option Task) :
    (PublishingTask.publish task.publishingQueue now after).held ownerKey communityId part = [] := by
  refine queuedValues_of_names fun entry hEntry => ?_
  obtain ⟨publication, hPublication, rfl⟩ := List.mem_map.mp hEntry
  exact task.publications_part publication hPublication

theorem Task.owes_publishingQueue {task : Task} (hHere : task.communityId = communityId) {publication : Publication}
    (h : publication ∈ task.publications) (now : UInt64) (after : Option Task) :
    (PublishingTask.publish task.publishingQueue now after).Owes communityId publication.part :=
  ⟨publication, hHere ▸ List.mem_map.mpr ⟨publication, h, rfl⟩, rfl, task.publications_part publication h⟩

/-- A task that holds nothing of the part and changes nothing of it. -/
theorem PublishingOutcome.idle {task : PublishingTask} {after : PublishedState} {rest : Option PublishingTask}
    {changed : HostedCommunity} (hSame : part.Same changed community) (hRecord : after.records = before.records)
    (hTask : task.held ownerKey communityId part = []) (hOwes : ¬task.Owes communityId part)
    (hRest : ∀ next, rest = some next → next.held ownerKey communityId part = []) :
    PublishingOutcome ownerKey communityId part task before after rest community changed := by
  refine .kept hSame (by rw [hRecord]) ?_ (fun _ => hTask) fun h => absurd h hOwes
  intro next hNext value hValue
  rw [hRest next hNext] at hValue
  cases hValue

theorem comes_handle (task : Task) (hHosted : before.server.hosted.lookup communityId = some community) :
    Comes ownerKey communityId part (.handle task) before community := by
  have hRun : ((PublishingTask.handle task).advance ownerKey).run before =
      match task.advance.run before.server with
      | .ok result server => .ok (result.map (fun rest =>
          .publish task.publishingQueue task.env.now (some rest)) fun _ => ()) { before with server := server }
      | .error e server => .error e { before with server := server } := by
    unfold PublishingTask.advance
    cases hTask : task.advance.run before.server with
    | ok result server =>
      rw [run_bind_of_ok _ (run_onServer_of_ok hTask)]
      rfl
    | error e server => rw [run_bind_of_error _ (run_onServer_of_error hTask)]
  have hServer : (Result.state (((PublishingTask.handle task).advance ownerKey).run before)).server =
      Result.state (task.advance.run before.server) := by
    rw [hRun]
    cases task.advance.run before.server <;> rfl
  have hRecord : (Result.state (((PublishingTask.handle task).advance ownerKey).run before)).records =
      before.records := by
    rw [hRun]
    cases task.advance.run before.server <;> rfl
  have hRest : ∀ next, goesOn? (((PublishingTask.handle task).advance ownerKey).run before) = some next →
      next.held ownerKey communityId part = [] := by
    intro next hNext
    rw [hRun] at hNext
    revert hNext
    cases task.advance.run before.server with
    | error e server => nofun
    | ok result server =>
      cases result with
      | inr answer => nofun
      | inl rest =>
        rintro ⟨⟩
        exact task.held_publishingQueue _ _
  have hIdle {changed : HostedCommunity} (hSame : part.Same changed community) :
      PublishingOutcome ownerKey communityId part (.handle task) before _ _ community changed :=
    .idle hSame hRecord rfl id hRest
  rw [Comes, hServer]
  rcases section_writes task before.server with hSame | hWrites
  · exact ⟨community, by rw [hSame, hHosted], hIdle (part.same_refl community)⟩
  · obtain ⟨found, hFound, hHosted'⟩ := hWrites.written
    rw [hHosted']
    by_cases hHere : communityId = task.communityId
    · subst hHere
      cases hHosted.symm.trans hFound
      refine ⟨task.leaves community, Finmap.lookup_insert _, ?_⟩
      by_cases hPart : part ∈ task.publications.map Publication.part
      · obtain ⟨publication, hPublication, rfl⟩ := List.mem_map.mp hPart
        rcases hWrites.goesOn with ⟨displayName, routeBlob, hJob⟩ | ⟨rest, server, hGoes⟩
        · unfold Task.publications at hPublication
          rw [hJob] at hPublication
          cases hPublication
        · refine .owed _ ?_ (Task.owes_publishingQueue rfl hPublication task.env.now (some rest))
          rw [hRun, hGoes]
          rfl
      · exact hIdle (Task.leaves_same hPart community)
    · rw [Finmap.lookup_insert_of_ne _ hHere]
      exact ⟨community, hHosted, hIdle (part.same_refl community)⟩

/-- An answered request has had its effect, and a refused one has changed no community in memory. -/
theorem handleRequest_hosted (env : Environment) (owner sender : String) (request : MemberRequest) (s : ServerState) :
    (∃ e t, (handleRequest env sender owner request).run s = .error e t ∧ SameHosted s t) ∨
      ∃ a t, (handleRequest env sender owner request).run s = .ok a t ∧ request.Passes env sender owner s ∧
        (SameHosted s t ∨ ∃ found, s.hosted.lookup owner = some found ∧ ∀ other, t.hosted.lookup other =
          (s.hosted.insert owner (request.effect env owner sender found).community).lookup other) := by
  rcases (handleRequest_settles s env sender owner request).cases with
    ⟨a, t, hRun, hPasses⟩ | ⟨e, t, hRun, -, hData | ⟨_, _, hBanned⟩⟩
  · refine .inr ⟨a, t, hRun, hPasses, ?_⟩
    rcases handleRequest_performs env sender owner s request a t hRun with ⟨found, hPerformed⟩ | ⟨-, hBeside⟩
    · exact .inr ⟨found, hPerformed.found, hPerformed.hosted⟩
    · exact .inl hBeside.hosted
  · exact .inl ⟨e, t, hRun, hData.hosted⟩
  · exact .inl ⟨e, t, hRun, hBanned.hosted⟩

theorem MemberRequest.publishes_owes {request : MemberRequest} (h : part ∈ request.publishedParts)
    (owner : String) (now : UInt64) : ∃ next, request.publishes owner now = .inl next ∧ next.Owes owner part := by
  cases request with
  | createChannel | deleteChannel | renameChannel =>
    cases List.mem_singleton.mp h
    exact ⟨_, rfl, .channels, List.mem_cons_self, rfl, Part.noConfusion⟩
  | updateCommunity =>
    cases List.mem_singleton.mp h
    exact ⟨_, rfl, rfl, rfl⟩
  | _ => exact absurd h List.not_mem_nil

theorem MemberRequest.held_publishes {request : MemberRequest} {owner : String} {now : UInt64}
    {next : PublishingTask} (h : request.publishes owner now = .inl next) :
    next.held ownerKey communityId part = [] := by
  cases request with
  | createChannel | deleteChannel | renameChannel | updateCommunity =>
    cases h
    rfl
  | _ => cases h

theorem comes_request {env : Environment} {owner sender : String} {request : MemberRequest}
    (whole : request.job? sender = none) (hHosted : before.server.hosted.lookup communityId = some community)
    (hRoles : owner = communityId → request.Passes env sender communityId before.server →
      ¬request.ChangesRoleIds env communityId sender community) :
    Comes ownerKey communityId part (.request env owner sender request whole) before community := by
  have hIdle {changed : HostedCommunity} {after : PublishedState} {rest : Option PublishingTask} :=
    @PublishingOutcome.idle ownerKey communityId part before community
      (.request env owner sender request whole) after rest changed
  rcases handleRequest_hosted env owner sender request before.server with
    ⟨e, t, hRun, hSame⟩ | ⟨a, t, hRun, hPasses, hEffect⟩
  · have hTurn : ((PublishingTask.request env owner sender request whole).advance ownerKey).run before =
        .error e { before with server := t } := by
      unfold PublishingTask.advance
      rw [run_bind_of_error _ (run_onServer_of_error hRun)]
    rw [Comes, hTurn]
    refine ⟨community, (congrArg (Finmap.lookup communityId) hSame).trans hHosted, ?_⟩
    exact hIdle (part.same_refl community) rfl rfl id fun _ h => nomatch h
  · have hTurn : ((PublishingTask.request env owner sender request whole).advance ownerKey).run before =
        .ok (request.publishes owner env.now) { before with server := t } := by
      unfold PublishingTask.advance
      rw [run_bind_of_ok _ (run_onServer_of_ok hRun)]
      rfl
    have hNext : ∀ next, goesOn? (.ok (request.publishes owner env.now) { before with server := t } :
        EStateM.Result RpcError PublishedState (PublishingTask ⊕ Unit)) = some next →
        next.held ownerKey communityId part = [] := by
      intro next hGoes
      obtain ⟨_, hOk⟩ := goesOn?_eq_some_iff.mp hGoes
      injection hOk with hNext
      exact MemberRequest.held_publishes hNext
    rw [Comes, hTurn]
    rcases hEffect with hSame | ⟨found, hFound, hChanged⟩
    · refine ⟨community, (congrArg (Finmap.lookup communityId) hSame).trans hHosted, ?_⟩
      exact hIdle (part.same_refl community) rfl rfl id hNext
    · rw [Result.state_ok, hChanged]
      by_cases hHere : owner = communityId
      · subst hHere
        cases hHosted.symm.trans hFound
        refine ⟨_, Finmap.lookup_insert _, ?_⟩
        by_cases hPart : part ∈ request.publishedParts
        · obtain ⟨next, hGoes, hOwed⟩ := MemberRequest.publishes_owes hPart owner env.now
          exact .owed next (by rw [hGoes]; rfl) hOwed
        · exact hIdle (effect_same env owner sender community whole (hRoles rfl hPasses) hPart) rfl rfl id hNext
      · rw [Finmap.lookup_insert_of_ne _ (Ne.symm hHere)]
        exact ⟨community, hHosted, hIdle (part.same_refl community) rfl rfl id hNext⟩

theorem comes_readName {owner : String} {now : UInt64}
    (hHosted : before.server.hosted.lookup communityId = some community) :
    Comes ownerKey communityId part (.readName owner now) before community := by
  have hTurn : ((PublishingTask.readName owner now).advance ownerKey).run before =
      .ok ((before.server.hosted.lookup owner).elim (.inr ()) fun found =>
        .inl (.publish [(owner, .metadata found.name)] now none)) before := rfl
  rw [Comes, hTurn]
  refine ⟨community, hHosted, ?_⟩
  by_cases hHere : owner = communityId ∧ part = .metadata
  · obtain ⟨rfl, rfl⟩ := hHere
    have hNext : goesOn? (.ok ((before.server.hosted.lookup owner).elim (.inr ()) fun found =>
        .inl (.publish [(owner, .metadata found.name)] now none)) before :
          EStateM.Result RpcError PublishedState (PublishingTask ⊕ Unit)) =
        some (.publish [(owner, .metadata community.name)] now none) := by
      rw [hHosted]
      rfl
    have hHeld : (PublishingTask.publish [(owner, .metadata community.name)] now none).held ownerKey owner
        .metadata = [(now, Part.metadata.encoding community (ownerKey owner) now)] := by
      simp only [PublishingTask.held, queuedValues, List.flatMap_cons, List.flatMap_nil, and_self, if_true,
        List.append_nil]
      rfl
    refine .kept (Part.same_refl _ _) rfl ?_ (fun _ => rfl) fun _ => ⟨⟨rfl, rfl⟩, _, hNext, ?_⟩
    · intro next hGoes value hValue
      cases hNext.symm.trans hGoes
      rw [hHeld] at hValue
      rw [List.mem_singleton.mp hValue]
      exact .inr rfl
    · rw [hHeld]
      exact List.cons_ne_nil _ _
  · refine .idle (part.same_refl community) rfl rfl hHere fun next hGoes => ?_
    cases hFound : before.server.hosted.lookup owner with
    | none =>
      rw [hFound] at hGoes
      cases hGoes
    | some found =>
      rw [hFound] at hGoes
      cases hGoes
      simp only [PublishingTask.held, queuedValues, List.flatMap_cons, List.flatMap_nil, if_neg hHere,
        List.append_nil]

theorem comes_publish_nil {now : UInt64} {after : Option Task}
    (hHosted : before.server.hosted.lookup communityId = some community) :
    Comes ownerKey communityId part (.publish [] now after) before community := by
  have hOwes : ¬(PublishingTask.publish [] now after).Owes communityId part := by
    rintro ⟨publication, hNone, -⟩
    cases hNone
  cases after with
  | none => exact ⟨community, hHosted, .idle (part.same_refl community) rfl rfl hOwes fun _ h => nomatch h⟩
  | some task =>
    refine ⟨community, hHosted, .idle (part.same_refl community) rfl rfl hOwes ?_⟩
    rintro next hNext
    cases hNext
    rfl

theorem queuedValues_cons (owner : String) (publication : Publication) (queue : PublicationQueue) (now : UInt64) :
    queuedValues ownerKey communityId part ((owner, publication) :: queue) now =
      queuedValues ownerKey communityId part [(owner, publication)] now ++
        queuedValues ownerKey communityId part queue now := by
  simp only [queuedValues, List.flatMap_cons, List.flatMap_nil, List.append_nil]

theorem comes_publish_cons {owner : String} {publication : Publication} {queue : PublicationQueue} {now : UInt64}
    {after : Option Task} (hHosted : before.server.hosted.lookup communityId = some community) :
    Comes ownerKey communityId part (.publish ((owner, publication) :: queue) now after) before community := by
  let data := publication.snapshot owner (ownerKey owner) now before.server
  let next : PublishingTask := data.elim (.publish queue now after) fun data =>
    .write owner publication data queue now after
  have hTurn : ((PublishingTask.publish ((owner, publication) :: queue) now after).advance ownerKey).run before =
      .ok (.inl next) before := rfl
  rw [Comes, hTurn]
  refine ⟨community, hHosted, ?_⟩
  by_cases hOwes : QueueOwes communityId part queue
  · refine .owed next rfl ?_
    change PublishingTask.Owes communityId part (data.elim _ _)
    cases data <;> exact hOwes
  by_cases hHere : owner = communityId ∧ publication.part = part
  · obtain ⟨rfl, rfl⟩ := hHere
    have hData : data = some (write (publication.value community (ownerKey owner) now)) := by
      change Option.map _ (before.server.hosted.lookup owner) = _
      rw [hHosted]
      rfl
    have hNext : next.held ownerKey owner publication.part =
        (now, write (publication.value community (ownerKey owner) now)) ::
          queuedValues ownerKey owner publication.part queue now := by
      simp only [next, hData, Option.elim_some, PublishingTask.held, and_self, if_true, List.singleton_append]
    have hSome : ∃ other, some next = some other ∧ other.held ownerKey owner publication.part ≠ [] := by
      refine ⟨next, rfl, ?_⟩
      rw [hNext]
      exact List.cons_ne_nil _ _
    refine .kept (Part.same_refl _ _) rfl ?_ ?_ ?_
    · rintro _ ⟨⟩ value hValue
      rw [hNext] at hValue
      rw [PublishingTask.held, queuedValues_cons]
      rcases List.mem_cons.mp hValue with rfl | hQueued
      · cases publication with
        | metadata name =>
          refine .inl (List.mem_append_left _ ?_)
          simp only [queuedValues, List.flatMap_cons, List.flatMap_nil, List.append_nil]
          rw [if_pos ⟨trivial, rfl⟩]
          exact List.mem_cons_self
        | channels | memberRoster | mekBundle => exact .inr rfl
      · exact .inl (List.mem_append_right _ hQueued)
    · intro hNone
      obtain ⟨other, hOther, hHeld⟩ := hSome
      exact absurd (hNone other hOther) hHeld
    · rintro ⟨owed, hMem, hPart, hNotName⟩
      exact ⟨⟨rfl, rfl, hNotName⟩, hSome⟩
  · have hHead : queuedValues ownerKey communityId part [(owner, publication)] now = [] := by
      cases publication with
      | metadata name =>
        simp only [queuedValues, List.flatMap_cons, List.flatMap_nil, List.append_nil]
        exact if_neg fun h => hHere ⟨h.1, h.2.symm⟩
      | channels | memberRoster | mekBundle => rfl
    have hSame : next.held ownerKey communityId part =
        (PublishingTask.publish ((owner, publication) :: queue) now after).held ownerKey communityId part := by
      change PublishingTask.held ownerKey communityId part (data.elim _ _) = _
      rw [PublishingTask.held, queuedValues_cons, hHead, List.nil_append]
      cases data with
      | none => rfl
      | some bytes => simp only [Option.elim_some, PublishingTask.held, if_neg hHere, List.nil_append]
    refine .kept (Part.same_refl _ _) rfl ?_ ?_ ?_
    · rintro _ ⟨⟩ value hValue
      exact .inl (hSame ▸ hValue)
    · intro hNone
      rw [← hSame]
      exact hNone next rfl
    · rintro ⟨owed, hMem, hPart, hNotName⟩
      rcases List.mem_cons.mp hMem with hFirst | hRest
      · cases hFirst
        exact absurd ⟨rfl, hPart⟩ hHere
      · exact absurd ⟨owed, hRest, hPart, hNotName⟩ hOwes

theorem comes_write {owner : String} {publication : Publication} {data : Bytes} {queue : PublicationQueue}
    {now : UInt64} {after : Option Task} (hHosted : before.server.hosted.lookup communityId = some community) :
    Comes ownerKey communityId part (.write owner publication data queue now after) before community := by
  have hTurn : ((PublishingTask.write owner publication data queue now after).advance ownerKey).run before =
      .ok (.inl (.publish queue now after))
        { before with records := setValue before.records owner publication.subkey data } := rfl
  rw [Comes, hTurn]
  refine ⟨community, hHosted, ?_⟩
  by_cases hOwes : QueueOwes communityId part queue
  · exact .owed _ rfl hOwes
  by_cases hHere : owner = communityId ∧ publication.part = part
  · obtain ⟨rfl, rfl⟩ := hHere
    have hHeld : (PublishingTask.write owner publication data queue now after).held ownerKey owner publication.part =
        (now, data) :: queuedValues ownerKey owner publication.part queue now := by
      simp only [PublishingTask.held, and_self, if_true, List.singleton_append]
    refine .wrote (Part.same_refl _ _) (now, data) ?_ ?_ ?_ hOwes
    · rw [hHeld]
      exact List.mem_cons_self
    · change setValue before.records owner publication.subkey data owner publication.part.subkey = some data
      rw [Publication.subkey_part, setValue, Function.update_self, Function.update_self]
    · rintro _ ⟨⟩ value hValue
      rw [hHeld]
      exact List.mem_cons_of_mem _ hValue
  · have hHeld : (PublishingTask.write owner publication data queue now after).held ownerKey communityId part =
        queuedValues ownerKey communityId part queue now := by
      simp only [PublishingTask.held, if_neg hHere, List.nil_append]
    refine .kept (Part.same_refl _ _) ?_ ?_ ?_ fun h => absurd h hOwes
    · change setValue before.records owner publication.subkey data communityId part.subkey = _
      unfold setValue
      by_cases hOwner : owner = communityId
      · subst hOwner
        rw [Function.update_self, Function.update_of_ne]
        intro hSubkey
        rw [← Publication.subkey_part] at hSubkey
        exact hHere ⟨rfl, (Part.subkey_injective hSubkey).symm⟩
      · rw [Function.update_of_ne (Ne.symm hOwner)]
    · rintro _ ⟨⟩ value hValue
      exact .inl (hHeld ▸ hValue)
    · intro hNone
      rw [hHeld]
      exact hNone _ rfl

theorem collectHosted_run (order : List String) (s : ServerState) :
    ∃ names t, (collectHosted order).run s = .ok names t ∧ SameHosted s t ∧
      names.map Prod.fst = order.filter (fun owner => (s.hosted.lookup owner).isSome) ∧
      (true ∉ s.dbFaults.take order.length →
        ∀ entry ∈ names, entry.2 = (s.db.communityName entry.1).getD "") := by
  obtain ⟨names, t, hRun, hOrder, hNames⟩ :=
    collectNames_run (order.filter fun owner => (s.hosted.lookup owner).isSome) s
  refine ⟨names, t, hRun, ?_, hOrder, fun hFaults => hNames fun hFault => hFaults ?_⟩
  · have hKept := sameHosted_collectNames (order.filter fun owner => (s.hosted.lookup owner).isSome) s
    rwa [hRun] at hKept
  · exact (List.take_prefix_take_left (List.length_filter_le _ _)).subset hFault

theorem comes_collect {order : List String} {now : UInt64}
    (hHosted : before.server.hosted.lookup communityId = some community)
    (hName : communityId ∈ order → before.server.db.communityName communityId = some community.name ∧
      true ∉ before.server.dbFaults.take order.length) :
    Comes ownerKey communityId part (.collect order now) before community := by
  obtain ⟨names, t, hRun, hSame, hOrder, hNames⟩ := collectHosted_run order before.server
  have hTurn : ((PublishingTask.collect order now).advance ownerKey).run before =
      .ok (.inl (.publish (names.flatMap fun entry => keepalivePublications entry.1 entry.2) now none))
        { before with server := t } := by
    unfold PublishingTask.advance
    rw [run_bind_of_ok _ (run_onServer_of_ok hRun)]
    rfl
  rw [Comes, hTurn]
  refine ⟨community, (congrArg (Finmap.lookup communityId) hSame).trans hHosted, ?_⟩
  refine .kept (part.same_refl community) rfl ?_ (fun _ => rfl) fun h => h.elim
  rintro _ ⟨⟩ value hHeld
  right
  obtain ⟨⟨owner, publication⟩, hQueue, hValue⟩ := List.mem_flatMap.mp hHeld
  obtain ⟨⟨other, name⟩, hEntry, hQueued⟩ := List.mem_flatMap.mp hQueue
  cases publication with
  | channels | memberRoster | mekBundle => cases hValue
  | metadata written =>
    have hWritten : owner = other ∧ written = name := by
      simp [keepalivePublications] at hQueued
      exact hQueued
    obtain ⟨rfl, rfl⟩ := hWritten
    dsimp only at hValue
    split at hValue
    next hHere =>
      obtain ⟨rfl, rfl⟩ := hHere
      have hAsked : owner ∈ order := by
        have hMem : owner ∈ names.map Prod.fst := List.mem_map.mpr ⟨_, hEntry, rfl⟩
        rw [hOrder] at hMem
        exact (List.mem_filter.mp hMem).1
      obtain ⟨hStored, hFaults⟩ := hName hAsked
      have hRead := hNames hFaults _ hEntry
      dsimp only at hRead
      rw [hStored, Option.getD_some] at hRead
      rw [List.mem_singleton.mp hValue, hRead]
      rfl
    next => cases hValue

theorem converges_turn {pool : Pool PublishedState PublishingTask} {turn : Turn PublishingCall}
    (h : Converges ownerKey communityId part pool) (hOrderly : OrderlyPublication ownerKey communityId pool turn) :
    Converges ownerKey communityId part (take PublishingCall.start (PublishingTask.advance ownerKey) pool turn) := by
  obtain ⟨community, hHosted, hState⟩ := id h
  cases hTurn : turnOf pool turn with
  | none =>
    refine ⟨community, ?_, ?_⟩
    · rw [shared_of_no_turn hTurn]
      exact hHosted
    rw [shared_of_no_turn hTurn]
    have hStays : ∀ task ∈ pool.running,
        task ∈ (take PublishingCall.start (PublishingTask.advance ownerKey) pool turn).running :=
      fun task hTask => mem_take_of_mem hTask (by rw [hTurn]; nofun)
    refine hState.imp (fun ⟨task, hTask, hOwes⟩ => ⟨task, hStays task hTask, hOwes⟩) fun hUpToDate =>
      ⟨fun task hTask value hValue => ?_, fun hNone => hUpToDate.written fun task hTask =>
        hNone task (hStays task hTask)⟩
    rcases mem_take hTask with hOld | ⟨call, rfl⟩ | ⟨former, hFormer, -⟩
    · exact hUpToDate.held task hOld value hValue
    · rw [held_start] at hValue
      cases hValue
    · cases hTurn.symm.trans hFormer
  | some task =>
    obtain ⟨hReads, hTask⟩ := hOrderly task hTurn community hHosted
    obtain ⟨changed, hChanged, hOutcome⟩ : Comes ownerKey communityId part task pool.shared community := by
      cases task with
      | handle task => exact comes_handle task hHosted
      | request env owner sender request whole => exact comes_request whole hHosted hTask
      | readName owner now => exact comes_readName hHosted
      | collect order now => exact comes_collect hHosted hTask
      | publish queue now after =>
        cases queue with
        | nil => exact comes_publish_nil hHosted
        | cons entry queue => exact comes_publish_cons hHosted
      | write owner publication data queue now after => exact comes_write hHosted
    have hShared : (take PublishingCall.start (PublishingTask.advance ownerKey) pool turn).shared =
        Result.state ((task.advance ownerKey).run pool.shared) := shared_of_turn hTurn
    rw [← hShared] at hChanged hOutcome
    exact Converges.of_outcome hTurn hHosted hChanged hOutcome (hReads part) h

end

/-- The subkeys hold the parts of the community as it is in memory. -/
def Published (ownerKey : String → String) (communityId : String) (state : PublishedState) : Prop :=
  ∃ community, state.server.hosted.lookup communityId = some community ∧
    ∀ part : Part, ∃ now, state.records communityId part.subkey =
      some (part.encoding community (ownerKey communityId) now)

/-- When all tasks have ended, the record is the state in memory. -/
theorem publication_converges {ownerKey : String → String} {communityId : String} {state : PublishedState}
    {turns : List (Turn PublishingCall)} (hStart : Published ownerKey communityId state)
    (hOrderly : Along (take PublishingCall.start (PublishingTask.advance ownerKey))
      (OrderlyPublication ownerKey communityId) ⟨state, []⟩ turns)
    (hEnded : (final (take PublishingCall.start (PublishingTask.advance ownerKey)) ⟨state, []⟩ turns).running = []) :
    Published ownerKey communityId
      (final (take PublishingCall.start (PublishingTask.advance ownerKey)) ⟨state, []⟩ turns).shared := by
  obtain ⟨community, hHosted, hWritten⟩ := hStart
  have hFinal (part : Part) : Converges ownerKey communityId part
      (final (take PublishingCall.start (PublishingTask.advance ownerKey)) ⟨state, []⟩ turns) := by
    refine hOrderly.invariant (Converges ownerKey communityId part) (fun _ _ h hTurn => converges_turn h hTurn) ?_
    exact ⟨community, hHosted, .inr ⟨fun _ h => absurd h List.not_mem_nil, fun _ => hWritten part⟩⟩
  obtain ⟨last, hLast, -⟩ := hFinal .metadata
  refine ⟨last, hLast, fun part => ?_⟩
  obtain ⟨found, hFound, hOwes | hUpToDate⟩ := hFinal part
  · obtain ⟨task, hTask, -⟩ := hOwes
    rw [hEnded] at hTask
    cases hTask
  · cases hLast.symm.trans hFound
    exact hUpToDate.written fun task hTask => by
      rw [hEnded] at hTask
      cases hTask

theorem published_publishAll {ownerKey : String → String} {communityId : String} {server : ServerState}
    {community : HostedCommunity} {now : UInt64} {values : Subkeys}
    (hHosted : server.hosted.lookup communityId = some community) :
    Published ownerKey communityId
      ⟨server, fun _ => publishAll communityId (ownerKey communityId) community.name now server values⟩ := by
  refine ⟨community, hHosted, fun part => ⟨now, ?_⟩⟩
  have hPublication : part.publication community ∈ allPublications community.name := by
    cases part <;> simp [Part.publication, allPublications]
  have hSubkey : (part.publication community).subkey = part.subkey := by cases part <;> rfl
  rw [← hSubkey]
  exact publishAll_of_hosted community.name hHosted hPublication

/-! ## Two new channels -/

def publishedByAlice : PublishedState where
  server := hostedByAlice
  records := fun _ => publishAll "c" "key" "Community" 0 hostedByAlice fun _ => none

def createCall (channel : String) : PublishingCall :=
  .request { sampleRequest "alice" (.member (.createChannel channel "text")) with
    env := { sampleEnvironment with channelSuffix := channel } }

/-- Alice creates two channels, and the two tasks have their turns in the order of the indices. -/
def channelTurns (order : List Nat) : List (Turn PublishingCall) :=
  [.start (createCall "one"), .start (createCall "two")] ++ order.map .advance

def twoChannels (order : List Nat) : Pool PublishedState PublishingTask :=
  final (take PublishingCall.start (PublishingTask.advance fun _ => "key")) ⟨publishedByAlice, []⟩
    (channelTurns order)

theorem publishedByAlice_published : Published (fun _ => "key") "c" publishedByAlice := by
  have hNamed : inSample hostedByAlice (fun community => community.name == "Community") = true := by decide +kernel
  obtain ⟨community, hCommunity⟩ := exists_of_inSample hNamed
  have hName : community.name = "Community" := eq_of_beq (test_of_inSample hNamed hCommunity)
  have hPublished : Published (fun _ => "key") "c" ⟨hostedByAlice,
      fun _ => publishAll "c" "key" community.name 0 hostedByAlice fun _ => none⟩ := published_publishAll hCommunity
  rwa [hName] at hPublished

/-- How many channels a reader finds in the value. -/
def listedChannels (data : Bytes) : Option Nat :=
  match parse data with
  | some (.object ((_, .array channels) :: _)) => some channels.length
  | _ => none

theorem listedChannels_write (channels : List ServerChannel) (now : UInt64) :
    listedChannels (write (channelsValue channels now)) = some channels.length := by
  unfold listedChannels
  rw [parse_write]
  simp [channelsValue, objectValue]

theorem not_published_of_counts {state : PublishedState} {hosted listed : Nat}
    (hHosted : inSample state.server (fun community => community.channels.length == hosted) = true)
    (hListed : (state.records "c" Part.channels.subkey).bind listedChannels = some listed)
    (hApart : listed ≠ hosted) : ¬Published (fun _ => "key") "c" state := by
  rintro ⟨community, hCommunity, hAll⟩
  obtain ⟨now, hRecord⟩ := hAll .channels
  have hLength : community.channels.length = hosted := eq_of_beq (test_of_inSample hHosted hCommunity)
  have hWritten : listedChannels (Part.channels.encoding community "key" now) = some community.channels.length :=
    listedChannels_write community.channels now
  rw [hRecord, Option.bind_some, hWritten, hLength] at hListed
  exact hApart (Option.some.inj hListed).symm

/-- The task of the first channel writes its snapshot after the second channel is published. -/
theorem older_snapshot_wins :
    ¬∀ (ownerKey : String → String) (communityId : String) (state : PublishedState) (turns : List (Turn PublishingCall)),
      Published ownerKey communityId state →
      (final (take PublishingCall.start (PublishingTask.advance ownerKey)) ⟨state, []⟩ turns).running = [] →
      Published ownerKey communityId
        (final (take PublishingCall.start (PublishingTask.advance ownerKey)) ⟨state, []⟩ turns).shared := by
  intro hClaim
  have hRuns (order : List Nat) (hEnded : (twoChannels order).running = []) :
      Published (fun _ => "key") "c" (twoChannels order).shared :=
    hClaim _ _ _ (channelTurns order) publishedByAlice_published hEnded
  have hEnded : (twoChannels [0, 0, 1, 1, 1, 1, 0, 0]).running.isEmpty = true := by decide +kernel
  refine @not_published_of_counts _ 2 1 ?_ ?_ (by decide) (hRuns _ (List.isEmpty_iff.mp hEnded))
  · decide +kernel
  · decide +kernel

/-- Each channel is published before the next one is created. -/
theorem two_channels_published : Published (fun _ => "key") "c" (twoChannels [0, 0, 0, 0, 0, 0, 0, 0]).shared := by
  have hRuns (order : List Nat) (hOrderly : Along (take PublishingCall.start (PublishingTask.advance fun _ => "key"))
      (OrderlyPublication (fun _ => "key") "c") ⟨publishedByAlice, []⟩ (channelTurns order))
      (hEnded : (twoChannels order).running = []) : Published (fun _ => "key") "c" (twoChannels order).shared :=
    publication_converges publishedByAlice_published hOrderly hEnded
  have hEnded : (twoChannels [0, 0, 0, 0, 0, 0, 0, 0]).running.isEmpty = true := by decide +kernel
  exact hRuns _ (by decide +kernel) (List.isEmpty_iff.mp hEnded)

end Rekindle.Server
