import Rekindle.Community.KeyRestoration

/-! # Keys and labels agree

Sections that do not overlap keep cache, state, keychain and row of a community in agreement, and so do
whole runs.
-/
namespace Rekindle.Community
set_option autoImplicit false
open ByteWords Server Fallible Interleaving Runs

def SendStage.message? : SendStage → Option PendingChannelMessage
  | .store _ _ message => some message
  | .deliver _ message => some message
  | .queue message => some message
  | _ => none

/-- The message that the task is going to send or to queue. -/
def Task.message? : Task → Option PendingChannelMessage
  | .send _ stage => stage.message?
  | _ => none

/-- What a section of the task leaves besides what concerns keys. -/
structure Leaves (task : Task) (before after : ClientState) : Prop where
  session : (after.identity = before.identity ∧ after.unlocked = before.unlocked) ∨
    (after.identity.isSome ∧ after.unlocked = true)
  rows : (before.db.communities.map CommunityRow.id).Nodup → (after.db.communities.map CommunityRow.id).Nodup
  transmitted : ∀ message ∈ after.transmitted, message ∈ before.transmitted ∨ message ∈ task.message?
  queued : ∀ message ∈ after.db.pendingMessages, message ∈ before.db.pendingMessages ∨ message ∈ task.message?

/-- Only what is held about keys in memory and in the keychain differs. -/
structure SameStore (before after : ClientState) : Prop where
  identity : after.identity = before.identity
  unlocked : after.unlocked = before.unlocked
  db : after.db = before.db
  transmitted : after.transmitted = before.transmitted

section
variable {crypto : Crypto} {communityId : String} {history : KeyHistory} {turn : Turn Request} {task : Task}
  {before after : ClientState}

theorem SameStore.leaves (h : SameStore before after) : Leaves task before after := by
  constructor
  · exact .inl ⟨h.identity, h.unlocked⟩
  · rw [h.db]
    exact id
  · rw [h.transmitted]
    exact fun _ => .inl
  · rw [h.db]
    exact fun _ => .inl

theorem SameStore.refl (state : ClientState) : SameStore state state := ⟨rfl, rfl, rfl, rfl⟩

theorem SameStore.foldl {α : Type} {change : ClientState → α → ClientState}
    (h : ∀ state value, SameStore state (change state value)) (values : List α) (state : ClientState) :
    SameStore state (values.foldl change state) := by
  induction values generalizing state with
  | nil => exact .refl state
  | cons value rest ih =>
    have hFirst := h state value
    have hRest := ih (change state value)
    exact ⟨hRest.identity.trans hFirst.identity, hRest.unlocked.trans hFirst.unlocked, hRest.db.trans hFirst.db,
      hRest.transmitted.trans hFirst.transmitted⟩

theorem sameStore_storeKey (state : ClientState) (payload : List UInt8) :
    SameStore state (state.storeKey communityId payload) := by
  unfold ClientState.storeKey
  split
  · exact ⟨rfl, rfl, rfl, rfl⟩
  · exact .refl state

/-- The rows of communities are changed, nothing else. -/
theorem leaves_of_rows {state : ClientState} {db : Database}
    (hRows : (state.db.communities.map CommunityRow.id).Nodup → (db.communities.map CommunityRow.id).Nodup)
    (hQueue : db.pendingMessages = state.db.pendingMessages) : Leaves task state { state with db := db } := by
  refine ⟨.inl ⟨rfl, rfl⟩, hRows, fun _ => .inl, fun message hMessage => .inl ?_⟩
  rwa [← hQueue]

theorem joinRows_pendingMessages (call : JoinCall) (ownerKey : String) (details : JoinDetails) (db : Database) :
    (joinRows call ownerKey details db).pendingMessages = db.pendingMessages := by
  have hChannels (channels : List String) (db : Database) :
      (channels.foldl (fun db channelId => db.insertChannel ⟨channelId, call.communityId⟩) db).pendingMessages =
        db.pendingMessages := by
    induction channels generalizing db with
    | nil => rfl
    | cons channelId rest ih =>
      rw [List.foldl_cons, ih]
      unfold Database.insertChannel
      split <;> rfl
  unfold joinRows
  rw [hChannels]
  unfold Database.insertCommunity
  split <;> rfl

theorem insertMessage_pendingMessages {db stored : Database} {row : MessageRow} (h : db.insertMessage row = some stored) :
    stored.pendingMessages = db.pendingMessages := by
  unfold Database.insertMessage at h
  split at h
  · cases h
    rfl
  · cases h

theorem login_leaves (call : LoginCall) (stage : LoginStage) (state : ClientState) :
    Leaves (.login call stage) state (Result.state ((loginSection crypto call stage).run state)) := by
  cases stage with
  | unlock => exact ⟨.inr ⟨rfl, rfl⟩, id, fun _ => .inl, fun _ => .inl⟩
  | readRows => exact (SameStore.refl state).leaves
  | loadCommunities rows channels =>
    have hSame : SameStore state
        (rows.foldl (fun state row => state.insertCommunity (loadedCommunity channels row)) state) :=
      SameStore.foldl (by exact fun _ _ => ⟨rfl, rfl, rfl, rfl⟩) rows state
    exact hSame.leaves
  | collect => exact (SameStore.refl state).leaves
  | restore todo restored =>
    cases todo with
    | nil => exact (SameStore.refl state).leaves
    | cons visited todo =>
      have hSame : SameStore state
          (restoreMek (call.freshKey visited.1) visited.1 visited.2 restored state).2 := by
        unfold restoreMek
        split
        · split
          · exact .refl state
          · split
            · exact sameStore_storeKey state _
            · exact .refl state
        · exact .refl state
      exact hSame.leaves
  | applyUpdates restored =>
    have hFirst : SameStore state
        (restored.visited.foldl (fun state visited => fillPseudonym crypto visited state) state) :=
      SameStore.foldl (by exact fun _ _ => ⟨rfl, rfl, rfl, rfl⟩) restored.visited state
    have hSecond := SameStore.foldl (fun (state : ClientState) (id : String) =>
      (⟨rfl, rfl, rfl, rfl⟩ : SameStore state (state.setGeneration id 1))) restored.regenerated
        (restored.visited.foldl (fun state visited => fillPseudonym crypto visited state) state)
    exact SameStore.leaves ⟨hSecond.identity.trans hFirst.identity, hSecond.unlocked.trans hFirst.unlocked,
      hSecond.db.trans hFirst.db, hSecond.transmitted.trans hFirst.transmitted⟩
  | fillCache meks =>
    have hSame : SameStore state (meks.foldl (fun state found => state.cacheMek found.1 found.2) state) :=
      SameStore.foldl (by exact fun _ _ => ⟨rfl, rfl, rfl, rfl⟩) meks state
    exact hSame.leaves

theorem join_leaves (call : JoinCall) (stage : JoinStage) (state : ClientState) :
    Leaves (.join call stage) state (Result.state ((joinSection crypto call stage).run state)) := by
  cases stage with
  | begin =>
    have hRun : (joinSection crypto call .begin).run state = _ :=
      begin_run (fun ownerKey => Task.join call (.callServer ownerKey)) state
    rw [hRun]
    cases state.identity <;> exact (SameStore.refl state).leaves
  | callServer ownerKey =>
    have hRun : (joinSection crypto call (.callServer ownerKey)).run state =
        (ofExcept call.rpcResult >>= fun joined => do
          modify fun state => (joined.bind Joined.mek).elim state (state.cacheMek call.communityId)
          pure (.inl (.join call (.insertCommunity ownerKey joined))) : ClientM (Task ⊕ Unit)).run state := rfl
    rw [hRun]
    cases call.rpcResult with
    | error message => exact (SameStore.refl state).leaves
    | ok joined =>
      have hSame : SameStore state ((joined.bind Joined.mek).elim state (state.cacheMek call.communityId)) := by
        cases joined.bind Joined.mek with
        | none => exact .refl state
        | some mek => exact ⟨rfl, rfl, rfl, rfl⟩
      exact hSame.leaves
  | insertCommunity ownerKey joined => exact SameStore.leaves ⟨rfl, rfl, rfl, rfl⟩
  | readBack ownerKey joined => exact (SameStore.refl state).leaves
  | storeCached ownerKey joined details =>
    have hSame : SameStore state ((state.mekCache.lookup call.communityId).elim state fun mek =>
        state.storeKey call.communityId (mekPayload mek)) := by
      cases state.mekCache.lookup call.communityId with
      | none => exact .refl state
      | some mek => exact sameStore_storeKey state _
    exact hSame.leaves
  | insertRow ownerKey joined details =>
    refine leaves_of_rows (fun hKeys => ?_) (joinRows_pendingMessages call ownerKey details state.db)
    rw [joinRows_communities]
    exact nodup_insertCommunity state.db _ hKeys

theorem persist_leaves (mekEncrypted : List UInt8) (mek : MediaEncryptionKey) (stage : PersistStage) (state : ClientState) :
    Leaves (.persistMek communityId mekEncrypted mek stage) state
      (Result.state ((persistSection communityId mekEncrypted mek stage).run state)) := by
  cases stage with
  | setGeneration => exact SameStore.leaves ⟨rfl, rfl, rfl, rfl⟩
  | storeKey => exact (sameStore_storeKey state mekEncrypted).leaves
  | updateRow =>
    change Leaves _ state (if state.identity.isSome = true then _ else _)
    split
    · refine leaves_of_rows (fun hKeys => ?_) rfl
      have hSame := @Keyed.map_key_update _ _ _ CommunityRow.id communityId state.db.communities
        (fun row => { row with mekGeneration := generationColumn mek.generation }) (fun _ => rfl)
      exact hSame.symm ▸ hKeys
    · exact (SameStore.refl state).leaves

theorem send_leaves (call : SendCall) (stage : SendStage) (state : ClientState) :
    Leaves (.send call stage) state (Result.state ((sendSection crypto call stage).run state)) := by
  cases stage with
  | begin =>
    have hRun : (sendSection crypto call .begin).run state = _ :=
      begin_run (fun ownerKey => Task.send call (.findChannel ownerKey)) state
    rw [hRun]
    cases state.identity <;> exact (SameStore.refl state).leaves
  | findChannel ownerKey =>
    have hRun : (sendSection crypto call (.findChannel ownerKey)).run state = _ := run_orThrow _ _ _ state
    rw [hRun]
    cases state.communities.find? fun community => community.channels.contains call.channelId <;>
      exact (SameStore.refl state).leaves
  | readSender ownerKey destination => exact (SameStore.refl state).leaves
  | encrypt senderKey destination =>
    have hRun : (sendSection crypto call (.encrypt senderKey destination)).run state = _ := run_orThrow _ _ _ state
    rw [hRun]
    cases state.mekCache.lookup destination.communityId <;> exact (SameStore.refl state).leaves
  | store senderKey serverRouteBlob message =>
    have hRun : (sendSection crypto call (.store senderKey serverRouteBlob message)).run state = _ :=
      run_orThrow _ _ _ state
    rw [hRun]
    generalize hInsert : state.db.insertMessage _ = inserted
    cases inserted with
    | none => exact (SameStore.refl state).leaves
    | some db =>
      refine leaves_of_rows (fun hKeys => ?_) (insertMessage_pendingMessages hInsert)
      rwa [insertMessage_communities hInsert]
  | deliver serverRouteBlob message =>
    have hHands : ∀ sent ∈ state.transmitted ++ [message], sent ∈ state.transmitted ∨ sent ∈ some message := by
      intro sent hSent
      exact (List.mem_append.mp hSent).imp id fun hNew => by rw [List.mem_singleton.mp hNew]; rfl
    cases serverRouteBlob with
    | none => exact (SameStore.refl state).leaves
    | some blob =>
      unfold sendSection
      cases call.delivery with
      | detached => exact (SameStore.refl state).leaves
      | unroutable => exact (SameStore.refl state).leaves
      | failed => exact ⟨.inl ⟨rfl, rfl⟩, id, hHands, fun _ => .inl⟩
      | answered reply =>
        rcases reply with _ | (error | response) <;> exact ⟨.inl ⟨rfl, rfl⟩, id, hHands, fun _ => .inl⟩
  | queue message =>
    change Leaves _ state (if state.identity.isSome = true then _ else _)
    split
    · refine ⟨.inl ⟨rfl, rfl⟩, id, fun _ => .inl, fun queued hQueued => ?_⟩
      exact (List.mem_append.mp hQueued).imp id fun hNew => by rw [List.mem_singleton.mp hNew]; rfl
    · exact (SameStore.refl state).leaves

theorem requestMek_run (reply : Reply) (state : ClientState) :
    (Task.advance crypto (.requestMek communityId reply)).run state = .ok (.inr ()) state ∨
      (Task.advance crypto (.requestMek communityId reply)).run state =
        .ok (.inl (.receiveMek communityId reply)) state := by
  have hRun : (Task.advance crypto (.requestMek communityId reply)).run state =
      (if ((state.community? communityId).bind CommunityState.serverRouteBlob).isSome ∧ state.identity.isSome then
        pure (.inl (.receiveMek communityId reply)) else pure (.inr ()) : ClientM (Task ⊕ Unit)).run state := rfl
  rw [hRun]
  split
  · exact .inr rfl
  · exact .inl rfl

theorem section_leaves (task : Task) (state : ClientState) :
    Leaves task state (Result.state ((task.advance crypto).run state)) := by
  cases task with
  | login call stage => exact login_leaves call stage state
  | join call stage => exact join_leaves call stage state
  | requestMek communityId reply =>
    rcases @requestMek_run crypto communityId reply state with hRun | hRun
    · rw [hRun]
      exact (SameStore.refl state).leaves
    · rw [hRun]
      exact (SameStore.refl state).leaves
  | receiveMek communityId reply =>
    cases hReply : reply.mek? with
    | none =>
      simp only [Task.advance, hReply]
      exact (SameStore.refl state).leaves
    | some found =>
      simp only [Task.advance, hReply]
      exact SameStore.leaves ⟨rfl, rfl, rfl, rfl⟩
  | persistMek communityId mekEncrypted mek stage => exact persist_leaves mekEncrypted mek stage state
  | send call stage => exact send_leaves call stage state

/-! ## What a task goes on as -/

structure Follows (crypto : Crypto) (history : KeyHistory) (task rest : Task) : Prop where
  loggingIn : rest.LoggingIn → task.LoggingIn ∨ history.state.identity = none
  carried : rest.carried ≠ none → task.carried ≠ none ∨ ∀ other ∈ history.pool.running, ¬other.LoggingIn
  message : ∀ message ∈ rest.message?, message ∈ task.message? ∨
    ∃ mek, task.composed crypto history.state = some (message, mek)
  apart : rest.LoggingIn → rest.carried = none

theorem follows_of_login {call : LoginCall} {stage next : LoginStage} (hOrderly : (Task.login call stage).Orderly history) :
    Follows crypto history (.login call stage) (.login call next) := by
  refine ⟨fun _ => ?_, fun hCarried => absurd rfl hCarried, nofun, fun _ => rfl⟩
  cases stage with
  | unlock => exact .inr hOrderly
  | _ => exact .inl trivial

theorem follows_of_join {call : JoinCall} {stage next : JoinStage}
    (hCarried : (Task.join call next).carried ≠ none → (Task.join call stage).carried ≠ none ∨
      ∀ other ∈ history.pool.running, ¬other.LoggingIn) :
    Follows crypto history (.join call stage) (.join call next) :=
  ⟨False.elim, hCarried, nofun, False.elim⟩

theorem join_follows {call : JoinCall} {stage : JoinStage} (hOrderly : (Task.join call stage).Orderly history) {rest : Task}
    (h : rest ∈ nextTask ((joinSection crypto call stage).run history.state)) :
    Follows crypto history (.join call stage) rest := by
  cases stage with
  | begin =>
    have hRun : (joinSection crypto call .begin).run history.state = _ :=
      begin_run (fun ownerKey => Task.join call (.callServer ownerKey)) history.state
    rw [hRun] at h
    cases hIdentity : history.state.identity with
    | none =>
      rw [hIdentity] at h
      cases h
    | some ownerKey =>
      rw [hIdentity] at h
      cases h
      exact follows_of_join fun hCarried => absurd rfl hCarried
  | callServer ownerKey =>
    have hRun : (joinSection crypto call (.callServer ownerKey)).run history.state =
        (ofExcept call.rpcResult >>= fun joined => do
          modify fun state => (joined.bind Joined.mek).elim state (state.cacheMek call.communityId)
          pure (.inl (.join call (.insertCommunity ownerKey joined))) : ClientM (Task ⊕ Unit)).run history.state := rfl
    rw [hRun] at h
    have hJoin : JoinOrderly history call.communityId call.rpcResult := hOrderly
    cases hResult : call.rpcResult with
    | error message =>
      rw [hResult] at h
      cases h
    | ok joined =>
      rw [hResult] at h hJoin
      cases h
      refine follows_of_join fun _ => .inr ?_
      cases joined with
      | none => exact hJoin.2
      | some found =>
        obtain ⟨mek, -, hArrives, -⟩ := hJoin
        exact hArrives.loggedIn
  | insertCommunity ownerKey joined =>
    cases h
    exact follows_of_join fun _ => .inl (Option.some_ne_none _)
  | readBack ownerKey joined =>
    cases h
    exact follows_of_join fun _ => .inl (Option.some_ne_none _)
  | storeCached ownerKey joined details =>
    cases h
    exact follows_of_join fun _ => .inl (Option.some_ne_none _)
  | insertRow ownerKey joined details => cases h

theorem send_follows {call : SendCall} {stage : SendStage} {rest : Task}
    (h : rest ∈ nextTask ((sendSection crypto call stage).run history.state)) :
    ∃ next, rest = .send call next ∧ Follows crypto history (.send call stage) rest := by
  have hFollows {next : SendStage} (hMessage : ∀ message ∈ next.message?, message ∈ stage.message? ∨
      ∃ mek, (Task.send call stage).composed crypto history.state = some (message, mek)) :
      ∃ other, Task.send call next = .send call other ∧ Follows crypto history (.send call stage) (.send call next) :=
    ⟨next, rfl, False.elim, fun hCarried => absurd rfl hCarried, hMessage, False.elim⟩
  cases stage with
  | begin =>
    have hRun : (sendSection crypto call .begin).run history.state = _ :=
      begin_run (fun ownerKey => Task.send call (.findChannel ownerKey)) history.state
    rw [hRun] at h
    cases hIdentity : history.state.identity with
    | none =>
      rw [hIdentity] at h
      cases h
    | some ownerKey =>
      rw [hIdentity] at h
      cases h
      exact hFollows nofun
  | findChannel ownerKey =>
    have hRun : (sendSection crypto call (.findChannel ownerKey)).run history.state = _ := run_orThrow _ _ _ _
    rw [hRun] at h
    cases hFound : history.state.communities.find? fun community => community.channels.contains call.channelId with
    | none =>
      rw [hFound] at h
      cases h
    | some community =>
      rw [hFound] at h
      cases h
      exact hFollows nofun
  | readSender ownerKey destination =>
    cases h
    exact hFollows nofun
  | encrypt senderKey destination =>
    have hRun : (sendSection crypto call (.encrypt senderKey destination)).run history.state = _ := run_orThrow _ _ _ _
    rw [hRun] at h
    cases hCached : history.state.mekCache.lookup destination.communityId with
    | none =>
      rw [hCached] at h
      cases h
    | some mek =>
      rw [hCached] at h
      cases h
      refine hFollows ?_
      rintro message ⟨⟩
      exact .inr ⟨mek, by rw [Task.composed, hCached]; rfl⟩
  | store senderKey serverRouteBlob message =>
    have hRun : (sendSection crypto call (.store senderKey serverRouteBlob message)).run history.state = _ :=
      run_orThrow _ _ _ _
    rw [hRun] at h
    generalize history.state.db.insertMessage _ = inserted at h
    cases inserted with
    | none => cases h
    | some db =>
      cases h
      exact hFollows fun _ => .inl
  | deliver serverRouteBlob message =>
    cases serverRouteBlob with
    | none =>
      cases h
      exact hFollows fun _ => .inl
    | some blob =>
      unfold sendSection at h
      cases hDelivery : call.delivery with
      | detached =>
        rw [hDelivery] at h
        cases h
      | unroutable =>
        rw [hDelivery] at h
        cases h
        exact hFollows fun _ => .inl
      | failed =>
        rw [hDelivery] at h
        cases h
        exact hFollows fun _ => .inl
      | answered reply =>
        rw [hDelivery] at h
        rcases reply with _ | (error | response)
        · cases h
        · cases h
          exact hFollows fun _ => .inl
        · cases h
  | queue message => cases h

theorem section_follows (hOrderly : task.Orderly history) {rest : Task}
    (h : rest ∈ nextTask ((task.advance crypto).run history.state)) : Follows crypto history task rest := by
  cases task with
  | login call stage =>
    cases stage with
    | restore todo restored =>
      cases todo with
      | nil =>
        cases h
        exact follows_of_login hOrderly
      | cons visited todo =>
        cases h
        exact follows_of_login hOrderly
    | fillCache meks => cases h
    | _ =>
      cases h
      exact follows_of_login hOrderly
  | join call stage => exact join_follows hOrderly h
  | requestMek communityId reply =>
    rcases @requestMek_run crypto communityId reply history.state with hRun | hRun
    · rw [hRun] at h
      cases h
    · rw [hRun] at h
      cases h
      exact ⟨False.elim, fun hCarried => absurd rfl hCarried, fun _ hNone => absurd hNone (Option.not_mem_none _), False.elim⟩
  | receiveMek communityId reply =>
    cases hReply : reply.mek? with
    | none =>
      simp only [Task.advance, hReply] at h
      cases h
    | some found =>
      have hArrives := (hOrderly found hReply).2.2.2
      simp only [Task.advance, hReply] at h
      cases h
      exact ⟨False.elim, fun _ => .inr hArrives.loggedIn, fun _ hNone => absurd hNone (Option.not_mem_none _), False.elim⟩
  | persistMek communityId mekEncrypted mek stage =>
    have hFollows (next : PersistStage) :
        Follows crypto history (.persistMek communityId mekEncrypted mek stage) (.persistMek communityId mekEncrypted mek next) :=
      ⟨False.elim, fun _ => .inl (Option.some_ne_none _), fun _ hNone => absurd hNone (Option.not_mem_none _), False.elim⟩
    cases stage with
    | setGeneration =>
      cases h
      exact hFollows _
    | storeKey =>
      cases h
      exact hFollows _
    | updateRow => cases h
  | send call stage =>
    obtain ⟨next, rfl, hFollows⟩ := send_follows h
    exact hFollows

/-- A task that goes on has found somebody logged in. -/
theorem identity_of_next (hStarted : task.Started → history.state.identity.isSome) {rest : Task}
    (h : rest ∈ nextTask ((task.advance crypto).run history.state)) :
    (Result.state ((task.advance crypto).run history.state)).identity.isSome := by
  have hBegin (next : String → Task) (hNext : rest ∈ nextTask ((do
      let ownerKey ← currentOwnerKey
      pure (.inl (next ownerKey)) : ClientM (Task ⊕ Unit)).run history.state)) :
      (Result.state ((do
        let ownerKey ← currentOwnerKey
        pure (.inl (next ownerKey)) : ClientM (Task ⊕ Unit)).run history.state)).identity.isSome := by
    rw [begin_run] at hNext ⊢
    cases hIdentity : history.state.identity with
    | none =>
      rw [hIdentity] at hNext
      cases hNext
    | some ownerKey =>
      change history.state.identity.isSome = true
      rw [hIdentity]
      rfl
  by_cases hFirst : task.Started
  · rcases (@section_leaves crypto task history.state).session with ⟨hIdentity, -⟩ | ⟨hIdentity, -⟩
    · rw [hIdentity]
      exact hStarted hFirst
    · exact hIdentity
  · cases task with
    | login call stage =>
      cases stage with
      | unlock => rfl
      | _ => exact absurd trivial hFirst
    | join call stage =>
      cases stage with
      | begin => exact hBegin (fun ownerKey => .join call (.callServer ownerKey)) h
      | _ => exact absurd trivial hFirst
    | requestMek communityId reply =>
      have hRun : (Task.advance crypto (.requestMek communityId reply)).run history.state =
          (if ((history.state.community? communityId).bind CommunityState.serverRouteBlob).isSome ∧
              history.state.identity.isSome then
            pure (.inl (.receiveMek communityId reply)) else pure (.inr ()) : ClientM (Task ⊕ Unit)).run history.state := rfl
      rw [hRun] at h ⊢
      split at h
      next hFound =>
        rw [if_pos hFound]
        exact hFound.2
      next => cases h
    | send call stage =>
      cases stage with
      | begin => exact hBegin (fun ownerKey => .send call (.findChannel ownerKey)) h
      | _ => exact absurd trivial hFirst
    | _ => exact absurd trivial hFirst

/-! ## Steps -/

theorem start_meets {view : KeyView} (request : Request) : (request.start).Meets communityId view := by
  cases request with
  | join call => exact fun _ => trivial
  | _ => trivial

theorem start_not_started (request : Request) : ¬(request.start).Started := by
  cases request <;> exact id

theorem start_carried (request : Request) : (request.start).carried = none := by
  cases request <;> rfl

theorem Task.LoggingIn.started (h : task.LoggingIn) : task.Started := by
  cases task with
  | login call stage => cases stage <;> exact h
  | _ => exact h.elim

theorem started_of_carried (h : task.carried ≠ none) : task.Started := by
  cases task with
  | join call stage =>
    cases stage with
    | begin => exact h rfl
    | _ => trivial
  | persistMek => trivial
  | _ => exact absurd rfl h

theorem section_advances (h : Agreed communityId history) (hSession : InSession history)
    (hIn : task ∈ history.pool.running) (hOrderly : task.Orderly history) :
    Advances communityId history task ((Result.state ((task.advance crypto).run history.state)).view communityId)
      (nextTask ((task.advance crypto).run history.state)) := by
  cases task with
  | login call stage => exact login_advances h hSession hIn
  | join call stage => exact join_advances h hSession hIn hOrderly
  | requestMek other reply =>
    rcases @requestMek_run crypto other reply history.state with hRun | hRun
    · rw [hRun]
      exact .of_idle h nofun fun _ hNone => nomatch hNone
    · rw [hRun]
      refine .of_idle h nofun ?_
      rintro _ ⟨⟩
      trivial
  | receiveMek other reply => exact receive_advances h hOrderly
  | persistMek other mekEncrypted mek stage => exact persist_advances h hSession hIn
  | send call stage =>
    have hView := @send_view crypto communityId call stage history.state
    change Advances communityId history _ ((Result.state ((sendSection crypto call stage).run history.state)).view communityId) _
    rw [hView]
    refine .of_idle h nofun fun rest hRest => ?_
    obtain ⟨next, rfl, -⟩ := send_follows hRest
    trivial

theorem agreed_turn (h : Agreed communityId history) (hSession : InSession history) {action : Turn Request}
    (hOrderly : Orderly history (.turn action)) : Agreed communityId (recordAction crypto history (.turn action)) := by
  cases hTurn : turnOf history.pool action with
  | none =>
    have hState : (recordAction crypto history (.turn action)).state = history.state := shared_of_no_turn hTurn
    have hStays : ∀ other ∈ history.pool.running, other ∈ (recordAction crypto history (.turn action)).pool.running := by
      refine fun other hOther => mem_take_of_mem hOther ?_
      rw [hTurn]
      exact nofun
    constructor
    · intro other hOther
      rw [hState]
      rcases mem_take hOther with hOld | ⟨request, rfl⟩ | ⟨former, hFormer, -⟩
      · exact h.meets other hOld
      · exact start_meets request
      · cases hTurn.symm.trans hFormer
    · rw [hState]
      exact h.keyLength
    · rw [hState]
      exact fun mek hMek place => (h.written mek hMek place).imp id fun ⟨other, hOther, hOwes⟩ =>
        ⟨other, hStays other hOther, hOwes⟩
    · rw [hState]
      exact h.settled
    · rw [hState]
      exact fun hLabel => (h.stored hLabel).imp id fun ⟨other, hOther, hInserts⟩ => ⟨other, hStays other hOther, hInserts⟩
    · rw [hState]
      exact h.hosted
  | some task => exact h.of_advances hTurn (section_advances h hSession (mem_of_turn hTurn) (hOrderly task hTurn))

theorem inSession_turn (h : InSession history) {action : Turn Request} (hOrderly : Orderly history (.turn action)) :
    InSession (recordAction crypto history (.turn action)) := by
  cases hTurn : turnOf history.pool action with
  | none =>
    have hState : (recordAction crypto history (.turn action)).state = history.state := shared_of_no_turn hTurn
    have hOrigin : ∀ other ∈ (recordAction crypto history (.turn action)).pool.running,
        other ∈ history.pool.running ∨ ∃ request : Request, other = request.start := by
      intro other hOther
      rcases mem_take hOther with hOld | hNew | ⟨former, hFormer, -⟩
      · exact .inl hOld
      · exact .inr hNew
      · cases hTurn.symm.trans hFormer
    constructor
    · rw [hState]
      exact h.unlocked
    · rw [hState]
      intro other hOther hStarted
      rcases hOrigin other hOther with hOld | ⟨request, rfl⟩
      · exact h.started other hOld hStarted
      · exact absurd hStarted (start_not_started request)
    · intro task hTask hLogin other hOther
      rcases hOrigin task hTask with hOld | ⟨request, rfl⟩
      · rcases hOrigin other hOther with hOldOther | ⟨request, rfl⟩
        · exact h.apart task hOld hLogin other hOldOther
        · exact start_carried request
      · exact absurd hLogin.started (start_not_started request)
    · rw [hState]
      exact h.rows
  | some task =>
    have hIn := mem_of_turn hTurn
    have hState := @state_of_turn crypto history action task hTurn
    have hLeaves : Leaves task history.state (recordAction crypto history (.turn action)).state := by
      rw [hState]
      exact section_leaves task history.state
    have hOrigin : ∀ other ∈ (recordAction crypto history (.turn action)).pool.running,
        other ∈ history.pool.running ∨ (∃ request : Request, other = request.start) ∨
          other ∈ nextTask ((task.advance crypto).run history.state) := by
      intro other hOther
      rcases mem_take hOther with hOld | hNew | ⟨former, hFormer, hNext⟩
      · exact .inl hOld
      · exact .inr (.inl hNew)
      · cases hTurn.symm.trans hFormer
        exact .inr (.inr (nextTask_of_goesOn hNext))
    have hFollows {rest : Task} (hRest : rest ∈ nextTask ((task.advance crypto).run history.state)) :
        Follows crypto history task rest := section_follows (hOrderly task hTurn) hRest
    -- Nobody logs in while a task is at work on a key.
    have hOldApart : ∀ rest ∈ nextTask ((task.advance crypto).run history.state),
        ∀ other ∈ history.pool.running, other.LoggingIn → rest.carried = none := by
      intro rest hRest other hOther hLogin
      by_contra hCarried
      rcases (hFollows hRest).carried hCarried with hFormer | hNobody
      · exact hFormer (h.apart other hOther hLogin task hIn)
      · exact hNobody other hOther hLogin
    have hNewApart : ∀ rest ∈ nextTask ((task.advance crypto).run history.state), rest.LoggingIn →
        ∀ other ∈ history.pool.running, other.carried = none := by
      intro rest hRest hLogin other hOther
      rcases (hFollows hRest).loggingIn hLogin with hFormer | hNobody
      · exact h.apart task hIn hFormer other hOther
      · by_contra hCarried
        have hIdentity := h.started other hOther (started_of_carried hCarried)
        rw [hNobody] at hIdentity
        cases hIdentity
    constructor
    · intro hIdentity
      rcases hLeaves.session with ⟨hSame, hUnlocked⟩ | ⟨-, hUnlocked⟩
      · rw [hUnlocked]
        exact h.unlocked (hSame ▸ hIdentity)
      · exact hUnlocked
    · intro other hOther hStarted
      rcases hOrigin other hOther with hOld | ⟨request, rfl⟩ | hNext
      · rcases hLeaves.session with ⟨hSame, -⟩ | ⟨hIdentity, -⟩
        · rw [hSame]
          exact h.started other hOld hStarted
        · exact hIdentity
      · exact absurd hStarted (start_not_started request)
      · rw [hState]
        exact identity_of_next (h.started task hIn) hNext
    · intro login hLoginIn hLogin other hOther
      rcases hOrigin login hLoginIn with hOld | ⟨request, rfl⟩ | hNext
      · rcases hOrigin other hOther with hOldOther | ⟨request, rfl⟩ | hNextOther
        · exact h.apart login hOld hLogin other hOldOther
        · exact start_carried request
        · exact hOldApart other hNextOther login hOld hLogin
      · exact absurd hLogin.started (start_not_started request)
      · rcases hOrigin other hOther with hOldOther | ⟨request, rfl⟩ | hNextOther
        · exact hNewApart login hNext hLogin other hOldOther
        · exact start_carried request
        · have hSame := hNext.symm.trans hNextOther
          cases hSame
          exact (hFollows hNext).apart hLogin
    · exact hLeaves.rows h.rows

/-! ## Messages -/

/-- Every message on its way is labelled with the generation of the key that sealed it. -/
structure Labelled (history : KeyHistory) : Prop where
  composed : ∀ task ∈ history.pool.running, ∀ message ∈ task.message?, history.Vouches message
  transmitted : ∀ message ∈ history.state.transmitted, history.Vouches message
  queued : ∀ message ∈ history.state.db.pendingMessages, history.Vouches message

theorem composed_label (hAgreed : ∀ communityId, Agreed communityId history) (hOrderly : task.Orderly history)
    {message : PendingChannelMessage} {mek : MediaEncryptionKey}
    (hComposed : task.composed crypto history.state = some (message, mek)) : message.mekGeneration = mek.generation := by
  unfold Task.composed at hComposed
  split at hComposed
  next call senderKey destination =>
    obtain ⟨cached, hCached, hSame⟩ := Option.map_eq_some_iff.mp hComposed
    cases hSame
    obtain ⟨hLabel, hOwed⟩ := hOrderly
    change destination.mekGeneration = mek.generation
    rcases (hAgreed destination.communityId).written mek hCached .label with hWritten | ⟨other, hOther, hCarried, hPlace⟩
    · have hSaid : some mek.generation = some destination.mekGeneration := hWritten.symm.trans hLabel
      exact (Option.some.inj hSaid).symm
    · exact (hOwed other hOther _ hCarried rfl hPlace mek rfl).symm
  next => cases hComposed

theorem Labelled.turn_of_none (h : Labelled history) {action : Turn Request}
    (hTurn : turnOf history.pool action = none) : Labelled (recordAction crypto history (.turn action)) := by
  have hState : (recordAction crypto history (.turn action)).state = history.state := shared_of_no_turn hTurn
  have hSealed : (recordAction crypto history (.turn action)).sealedWith = history.sealedWith := by
    simp only [recordAction, hTurn, Option.bind_none, Option.toList_none, List.append_nil]
  have hVouches {message : PendingChannelMessage} (hMessage : history.Vouches message) :
      (recordAction crypto history (.turn action)).Vouches message := by
    obtain ⟨mek, hMek, hSame⟩ := hMessage
    exact ⟨mek, hSealed ▸ hMek, hSame⟩
  constructor
  · intro other hOther message hMessage
    rcases mem_take hOther with hOld | ⟨request, rfl⟩ | ⟨former, hFormer, -⟩
    · exact hVouches (h.composed other hOld message hMessage)
    · cases request <;> cases hMessage
    · cases hTurn.symm.trans hFormer
  · rw [hState]
    exact fun message hMessage => hVouches (h.transmitted message hMessage)
  · rw [hState]
    exact fun message hMessage => hVouches (h.queued message hMessage)

theorem labelled_turn (h : Labelled history) (hAgreed : ∀ communityId, Agreed communityId history) {action : Turn Request}
    (hOrderly : Orderly history (.turn action)) : Labelled (recordAction crypto history (.turn action)) := by
  cases hTurn : turnOf history.pool action with
  | none => exact h.turn_of_none hTurn
  | some task =>
    have hIn := mem_of_turn hTurn
    have hSealed : (recordAction crypto history (.turn action)).sealedWith =
        history.sealedWith ++ (task.composed crypto history.state).toList := by
      simp only [recordAction, hTurn, Option.bind_some]
      rfl
    have hLeaves : Leaves task history.state (recordAction crypto history (.turn action)).state := by
      rw [@state_of_turn crypto history action task hTurn]
      exact section_leaves task history.state
    have hVouches {message : PendingChannelMessage} (hMessage : history.Vouches message) :
        (recordAction crypto history (.turn action)).Vouches message := by
      obtain ⟨mek, hMek, hSame⟩ := hMessage
      exact ⟨mek, hSealed ▸ List.mem_append_left _ hMek, hSame⟩
    have hOwn : ∀ message ∈ task.message?, (recordAction crypto history (.turn action)).Vouches message :=
      fun message hMessage => hVouches (h.composed task hIn message hMessage)
    constructor
    · intro other hOther message hMessage
      rcases mem_take hOther with hOld | ⟨request, rfl⟩ | ⟨former, hFormer, hNext⟩
      · exact hVouches (h.composed other hOld message hMessage)
      · cases request <;> cases hMessage
      · cases hTurn.symm.trans hFormer
        have hFollows : Follows crypto history task other :=
          section_follows (hOrderly task hTurn) (nextTask_of_goesOn hNext)
        rcases hFollows.message message hMessage with hKept | ⟨mek, hComposed⟩
        · exact hOwn message hKept
        · refine ⟨mek, hSealed ▸ List.mem_append_right _ ?_, composed_label hAgreed (hOrderly task hTurn) hComposed⟩
          rw [hComposed]
          exact List.mem_singleton_self _
    · intro message hMessage
      exact (hLeaves.transmitted message hMessage).elim (fun hOld => hVouches (h.transmitted message hOld)) (hOwn message)
    · intro message hMessage
      exact (hLeaves.queued message hMessage).elim (fun hOld => hVouches (h.queued message hOld)) (hOwn message)

/-! ## Runs -/

/-- The key in the cache is not replaced by an older one before the process ends. -/
def KeepsGenerations (crypto : Crypto) (history : KeyHistory) : Action → Prop
  | .turn turn => ∀ communityId, ∀ mek ∈ history.state.mekCache.lookup communityId,
      ∃ later ∈ (recordAction crypto history (.turn turn)).state.mekCache.lookup communityId,
        mek.generation ≤ later.generation
  | .restart => True

/-- A process that has just started, on a keychain and rows that agree. -/
structure KeyHistory.Rested (history : KeyHistory) : Prop where
  idle : history.pool.running = []
  fresh : history.state = history.state.stopped
  rows : (history.state.db.communities.map CommunityRow.id).Nodup
  settled : ∀ communityId, (history.state.view communityId).Settled
  labelled : Labelled history

/-- No task is at work on the key of the community. -/
def KeyHistory.Quiet (history : KeyHistory) (communityId : String) : Prop :=
  ∀ task ∈ history.pool.running, ∀ carried ∈ task.carried, carried.1 ≠ communityId

/-- Messages bear the generation of their key, and a key in the cache that nobody is at work on, restored
or not, goes with the generation in the state, the payload in the keychain and the generation in the row. -/
structure KeyHistory.Sound (history : KeyHistory) : Prop where
  messages : ∀ message, message ∈ history.state.transmitted ∨ message ∈ history.state.db.pendingMessages →
    history.Vouches message
  together : ∀ communityId, history.Quiet communityId → ∀ mek ∈ history.state.mekCache.lookup communityId,
    history.state.label? communityId = some mek.generation ∧
      history.state.vault.lookup communityId = some (mekPayload mek) ∧
      ∃ row ∈ history.state.row? communityId, row.mekGeneration = mek.generation.toInt64

/-- What is kept all along. -/
structure InOrder (history : KeyHistory) : Prop where
  agreed : ∀ communityId, Agreed communityId history
  session : InSession history
  labelled : Labelled history

theorem InOrder.sound (h : InOrder history) : history.Sound := by
  refine ⟨fun message hMessage => hMessage.elim (h.labelled.transmitted message) (h.labelled.queued message), ?_⟩
  intro communityId hQuiet mek hMek
  have hUnowed : ∀ other ∈ history.pool.running, ∀ mek, other.carried ≠ some (communityId, some mek) :=
    fun other hOther mek hCarried => hQuiet other hOther _ hCarried rfl
  have hWritten := (h.agreed communityId).written_of_unowed hUnowed hMek
  obtain ⟨isHosted, hRow⟩ := hWritten .row
  obtain ⟨row, hFound, hSame⟩ := Option.map_eq_some_iff.mp hRow
  exact ⟨hWritten .label, hWritten .keychain, row, hFound, congrArg Prod.fst hSame⟩

/-- A process that has just started, with whatever keychain and rows agree. -/
theorem inOrder_of_stopped (hIdle : history.pool.running = []) (hFresh : history.state = history.state.stopped)
    (hRows : (history.state.db.communities.map CommunityRow.id).Nodup)
    (hSettled : ∀ communityId, (history.state.view communityId).Settled) (hLabelled : Labelled history) :
    InOrder history := by
  have hNobody : ∀ task ∈ history.pool.running, False := by
    rw [hIdle]
    exact fun _ hNone => nomatch hNone
  refine ⟨fun communityId => ?_, ?_, hLabelled⟩
  · have hUnknown : (history.state.view communityId).label = none := by
      rw [hFresh]
      rfl
    have hEmpty : (history.state.view communityId).cached = none := by
      rw [hFresh]
      rfl
    have hNotOwn : (history.state.view communityId).hosted = false := by
      rw [hFresh]
      rfl
    constructor
    · exact fun task hTask => (hNobody task hTask).elim
    · intro mek hMek
      cases hEmpty.symm.trans hMek
    · intro mek hMek
      cases hEmpty.symm.trans hMek
    · exact fun _ => hSettled communityId
    · exact fun hLabel => absurd hUnknown hLabel
    · intro hHosted
      cases hNotOwn.symm.trans hHosted
  · constructor
    · rw [hFresh]
      exact nofun
    · exact fun task hTask => (hNobody task hTask).elim
    · exact fun task hTask => (hNobody task hTask).elim
    · exact hRows

theorem inOrder_step (h : InOrder history) {action : Action} (hOrderly : Orderly history action) :
    InOrder (recordAction crypto history action) := by
  cases action with
  | turn turn =>
    exact ⟨fun communityId => agreed_turn (h.agreed communityId) h.session hOrderly, inSession_turn h.session hOrderly,
      labelled_turn h.labelled h.agreed hOrderly⟩
  | restart =>
    refine inOrder_of_stopped rfl rfl h.session.rows (fun communityId => ?_) ?_
    · have hSettled := (h.agreed communityId).settled_of_unowed fun other hOther mek hCarried => by
        cases hOrderly other hOther _ hCarried
      exact hSettled
    · exact ⟨fun _ hNone => (nomatch hNone), h.labelled.transmitted, h.labelled.queued⟩

theorem keepsGenerations_step (h : InOrder history) {action : Action} (hOrderly : Orderly history action) :
    KeepsGenerations crypto history action := by
  cases action with
  | restart => trivial
  | turn turn =>
    intro communityId mek hMek
    cases hTurn : turnOf history.pool turn with
    | none =>
      have hState : (recordAction crypto history (.turn turn)).state = history.state := shared_of_no_turn hTurn
      rw [hState]
      exact ⟨mek, hMek, UInt64.le_refl _⟩
    | some task =>
      rw [@state_of_turn crypto history turn task hTurn]
      exact (section_advances (h.agreed communityId) h.session (mem_of_turn hTurn) (hOrderly task hTurn)).newer mek hMek

/-- Whatever joins, fetches, sends, logins and restarts there are, as long as their accesses to a key do not
overlap. -/
theorem keys_keep_labels (crypto : Crypto) {start : KeyHistory} (hStart : start.Rested) {actions : List Action}
    (hOrderly : Along (recordAction crypto) Orderly start actions) :
    Along (recordAction crypto) (KeepsGenerations crypto) start actions ∧
      (final (recordAction crypto) start actions).Sound := by
  have hFirst : InOrder start :=
    inOrder_of_stopped hStart.idle hStart.fresh hStart.rows hStart.settled hStart.labelled
  obtain ⟨hAlong, hFinal⟩ := hOrderly.of_invariant InOrder
    (fun _ _ h hAction => ⟨inOrder_step h hAction, keepsGenerations_step h hAction⟩) hFirst
  exact ⟨hAlong, hFinal.sound⟩

end

/-! ## A key is replaced under a send -/

/-- Ciphertexts that show the key they are made with. -/
def openCrypto : Crypto := { sealBytes := fun key _ plaintext => key ++ plaintext, derivePseudonym := id }

def sampleMek (generation : UInt64) : MediaEncryptionKey := ⟨generation, List.replicate 32 generation.toUInt8⟩

/-- A member of one community, before it logs in. -/
def memberAtRest : KeyHistory :=
  { pool :=
      { shared :=
          { identity := none, unlocked := false, communities := [], mekCache := ∅
            vault := Finmap.singleton "c" (mekPayload (sampleMek 1))
            db :=
              { communities := [⟨"c", some "me", 1, some [7], false⟩], channels := [⟨"general", "c"⟩]
                messages := [], pendingMessages := [] }
            transmitted := [] }
        running := [] }
    sealedWith := [] }

/-- The member logs in and sends a message; the sections after the send has looked the channel up are
those of the indices, with a fetch of a newer key as the second task. -/
def sendAndFetch (order : List Nat) : List Action :=
  let login : LoginCall := ⟨"owner", fun _ => ⟨List.replicate 32 0, rfl⟩⟩
  let send : SendCall := ⟨"general", "hello", [], 5, .answered (some (.ok .ok))⟩
  let fetch : Request := .fetch "c" (some (.ok (.mek (mekPayload (sampleMek 2)) 2)))
  let turns : List (Turn Request) := [.start (.login login)] ++ List.replicate 8 (.advance 0) ++
    [.start (.send send), .start fetch] ++ order.map .advance
  turns.map .turn

theorem memberAtRest_rested : memberAtRest.Rested := by
  refine ⟨rfl, rfl, by decide, fun communityId => ?_,
    ⟨fun _ hNone => (nomatch hNone), fun _ hNone => (nomatch hNone), fun _ hNone => (nomatch hNone)⟩⟩
  by_cases hHere : communityId = "c"
  · subst hHere
    exact ⟨sampleMek 1, rfl, rfl, false, rfl⟩
  · have hPayload : (memberAtRest.state.view communityId).payload = none :=
      Finmap.lookup_eq_none.mpr fun hMem => hHere ((Finmap.mem_singleton _ _ _).mp hMem)
    have hRow : (memberAtRest.state.view communityId).row = none := by
      change (Keyed.find CommunityRow.id communityId _).map rowView = none
      rw [Option.map_eq_none_iff, Keyed.find_eq_none_iff]
      intro row hRow hSame
      cases List.mem_singleton.mp hRow
      exact hHere hSame.symm
    unfold KeyView.Settled
    rw [hPayload, hRow]
    exact nofun

/-- The send reads the generation 1, the fetch replaces the key, and the send encrypts with the key of
generation 2. -/
theorem key_replaced_under_send : ¬∀ (crypto : Crypto) (start : KeyHistory), start.Rested → ∀ actions,
    Along (recordAction crypto) (KeepsGenerations crypto) start actions ∧
      (final (recordAction crypto) start actions).Sound := by
  intro hClaim
  set history := final (recordAction openCrypto) memberAtRest (sendAndFetch [0, 0, 0, 1, 1, 1, 1, 1, 0, 0, 0])
    with hHistory
  have hSent : history.state.transmitted.map PendingChannelMessage.mekGeneration = [1] := by decide +kernel
  have hSealed : history.sealedWith.map (fun sealed => sealed.2.generation) = [2] := by decide +kernel
  obtain ⟨message, hMessage, hLabel⟩ := List.mem_map.mp (hSent.symm ▸ List.mem_singleton_self (1 : UInt64))
  obtain ⟨mek, hMek, hSame⟩ := (hClaim openCrypto memberAtRest memberAtRest_rested _).2.messages message (.inl hMessage)
  have hTwo : mek.generation ∈ history.sealedWith.map fun sealed => sealed.2.generation :=
    List.mem_map.mpr ⟨_, hMek, rfl⟩
  rw [hSealed, List.mem_singleton, ← hSame, hLabel] at hTwo
  revert hTwo
  decide

/-- The fetch ends before the send begins. -/
theorem keys_keep_labels_in_turn :
    Along (recordAction openCrypto) (KeepsGenerations openCrypto) memberAtRest
        (sendAndFetch [1, 1, 1, 1, 1, 0, 0, 0, 0, 0, 0]) ∧
      (final (recordAction openCrypto) memberAtRest (sendAndFetch [1, 1, 1, 1, 1, 0, 0, 0, 0, 0, 0])).Sound :=
  keys_keep_labels openCrypto memberAtRest_rested (by decide +kernel)

end Rekindle.Community
