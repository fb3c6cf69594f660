import Rekindle.Community.KeyAdvances

/-! # Sections of a login keep keys and labels in agreement

While somebody is logging in nobody is at work on a key, so that keychain and rows agree all along.
-/
namespace Rekindle.Community
set_option autoImplicit false
open ByteWords Server Fallible Interleaving Runs

section
variable {crypto : Crypto} {communityId : String} {history : KeyHistory} {turn : Turn Request} {task : Task}
  {after : KeyView} {next : Option Task}

theorem view_fillPseudonyms (visited : List String) (state : ClientState) :
    (visited.foldl (fun state visited => fillPseudonym crypto visited state) state).view communityId =
      state.view communityId := by
  induction visited generalizing state with
  | nil => rfl
  | cons first rest ih =>
    rw [List.foldl_cons, ih]
    exact view_updateCommunity state first communityId (fun _ => rfl) (fun _ => rfl) (fun _ => rfl)

theorem view_setGenerations (ids : List String) (state : ClientState) :
    (ids.foldl (fun state id => state.setGeneration id 1) state).view communityId =
      if communityId ∈ ids then
        { state.view communityId with label := (state.view communityId).label.map fun _ => 1 }
      else state.view communityId := by
  induction ids generalizing state with
  | nil => rfl
  | cons first rest ih =>
    rw [List.foldl_cons, ih, view_setGeneration]
    by_cases hHere : communityId = first
    · by_cases hRest : communityId ∈ rest
      · simp [hHere, hHere ▸ hRest, Function.comp_def]
      · simp [hHere, hHere ▸ hRest]
    · simp [hHere]

/-- The cache has a key of the list, or what it had. -/
theorem view_fillCache (meks : List (String × MediaEncryptionKey)) (state : ClientState) :
    ∃ cached, (meks.foldl (fun state found => state.cacheMek found.1 found.2) state).view communityId =
        { state.view communityId with cached := cached } ∧
      (cached = (state.view communityId).cached ∨ ∃ mek, (communityId, mek) ∈ meks ∧ cached = some mek) := by
  induction meks generalizing state with
  | nil => exact ⟨_, rfl, .inl rfl⟩
  | cons found rest ih =>
    obtain ⟨cached, hView, hCached⟩ := ih (state.cacheMek found.1 found.2)
    rw [view_cacheMek] at hView hCached
    refine ⟨cached, ?_, ?_⟩
    · rw [List.foldl_cons, hView]
      split <;> rfl
    · rcases hCached with hOld | ⟨mek, hMem, rfl⟩
      · by_cases hHere : communityId = found.1
        · rw [if_pos hHere] at hOld
          exact .inr ⟨found.2, by rw [hHere]; exact List.mem_cons_self, hOld⟩
        · rw [if_neg hHere] at hOld
          exact .inl hOld
      · exact .inr ⟨mek, List.mem_cons_of_mem _ hMem, rfl⟩

theorem view_load (channels : List ChannelRow) {rows : List CommunityRow} (hKeys : (rows.map CommunityRow.id).Nodup)
    (state : ClientState) :
    (rows.foldl (fun state row => state.insertCommunity (loadedCommunity channels row)) state).view communityId =
      { state.view communityId with
        label := (((Keyed.find CommunityRow.id communityId rows).map rowView).map fun row => row.1.toUInt64).or
          (state.view communityId).label
        hosted := ((Keyed.find CommunityRow.id communityId rows).map rowView).elim
          (state.view communityId).hosted Prod.snd } := by
  induction rows generalizing state with
  | nil => rfl
  | cons row rest ih =>
    obtain ⟨hHead, hRest⟩ := List.nodup_cons.mp hKeys
    have hFirst : (state.insertCommunity (loadedCommunity channels row)).view communityId =
        if communityId = row.id then
          { state.view communityId with label := some row.mekGeneration.toUInt64, hosted := row.isHosted }
        else state.view communityId := view_insertCommunity state communityId (loadedCommunity channels row)
    rw [List.foldl_cons, ih hRest, hFirst, Keyed.find_cons]
    by_cases hHere : row.id = communityId
    · subst hHere
      have hOnly : Keyed.find CommunityRow.id row.id rest = none := by
        rw [Keyed.find_eq_none_iff]
        exact fun other hOther hSame => hHead (List.mem_map.mpr ⟨other, hOther, hSame⟩)
      rw [if_pos rfl, if_pos rfl, hOnly]
      rfl
    · rw [if_neg hHere, if_neg (Ne.symm hHere)]

theorem Agreed.written_of_unowed (h : Agreed communityId history)
    (hUnowed : ∀ other ∈ history.pool.running, ∀ mek, other.carried ≠ some (communityId, some mek))
    {mek : MediaEncryptionKey} (hMek : mek ∈ (history.state.view communityId).cached) (place : Place) :
    (history.state.view communityId).Written mek place := by
  refine (h.written mek hMek place).resolve_right ?_
  rintro ⟨other, hOther, hOwes, -⟩
  exact hUnowed other hOther _ hOwes

theorem Agreed.settled_of_unowed (h : Agreed communityId history)
    (hUnowed : ∀ other ∈ history.pool.running, ∀ mek, other.carried ≠ some (communityId, some mek)) :
    (history.state.view communityId).Settled := by
  cases hCached : (history.state.view communityId).cached with
  | none => exact h.settled hCached
  | some mek =>
    have hPayload : _ = some (mekPayload mek) := h.written_of_unowed hUnowed hCached .keychain
    obtain ⟨isHosted, hRow⟩ := h.written_of_unowed hUnowed hCached .row
    unfold KeyView.Settled
    rw [hPayload]
    exact ⟨mek, rfl, h.keyLength mek hCached, isHosted, hRow⟩

section
variable (h : Agreed communityId history) (hQuiet : ∀ other ∈ history.pool.running, ∀ mek, other.carried ≠ some (communityId, mek))
include h hQuiet

theorem Agreed.written_of_quiet {mek : MediaEncryptionKey} (hMek : mek ∈ (history.state.view communityId).cached)
    (place : Place) : (history.state.view communityId).Written mek place :=
  h.written_of_unowed (fun other hOther mek => hQuiet other hOther (some mek)) hMek place

theorem Agreed.settled_of_quiet : (history.state.view communityId).Settled :=
  h.settled_of_unowed fun other hOther mek => hQuiet other hOther (some mek)

theorem Agreed.row_of_quiet (hLabel : (history.state.view communityId).label ≠ none) :
    (history.state.view communityId).row ≠ none := by
  refine (h.stored hLabel).resolve_right ?_
  rintro ⟨other, hOther, hInserts⟩
  obtain ⟨mek, hCarried⟩ := hInserts.carried
  exact hQuiet other hOther mek hCarried

omit h in
/-- A section of a login, while nobody is at work on the key. -/
theorem Advances.of_login (hStages : ∀ stage : LoginStage, stage.Meets communityId (history.state.view communityId) →
      stage.Meets communityId after)
    (hNext : ∀ rest ∈ next, rest.Meets communityId after)
    (hCached : ∀ mek ∈ after.cached, mek.key.length = 32 ∧ ∀ place, after.Written mek place)
    (hNewer : ∀ mek ∈ (history.state.view communityId).cached, mek ∈ after.cached)
    (hSettled : after.Settled) (hRow : after.label ≠ none → after.row ≠ none)
    (hHosted : after.hosted = true → ∃ generation, after.row = some (generation, true)) :
    Advances communityId history task after next := by
  constructor
  · intro other hOther hMeets
    cases other with
    | login call stage => exact hStages stage hMeets
    | join call stage =>
      intro hHere
      cases stage with
      | begin => trivial
      | callServer ownerKey => trivial
      | _ => exact absurd (congrArg (fun here => some (here, _)) hHere) (hQuiet _ hOther _)
    | persistMek other mekEncrypted mek stage =>
      intro hHere
      exact absurd (congrArg (fun here => some (here, _)) hHere) (hQuiet _ hOther _)
    | _ => trivial
  · exact hNext
  · exact fun mek hMek => (hCached mek hMek).1
  · exact fun mek hMek => ⟨mek, hNewer mek hMek, UInt64.le_refl _⟩
  · exact fun mek hMek place => .inl ((hCached mek hMek).2 place)
  · exact fun _ => hSettled
  · exact fun hLabel => .inl (hRow hLabel)
  · exact hHosted

theorem loadCommunities_advances {call : LoginCall} {rows : List CommunityRow} {channels : List ChannelRow}
    (hIn : Task.login call (.loadCommunities rows channels) ∈ history.pool.running) :
    Advances communityId history (.login call (.loadCommunities rows channels))
      ((rows.foldl (fun state row => state.insertCommunity (loadedCommunity channels row)) history.state).view communityId)
      (some (.login call .collect)) := by
  obtain ⟨hKeys, hRows⟩ := h.meets _ hIn
  have hView : (rows.foldl (fun state row => state.insertCommunity (loadedCommunity channels row)) history.state).view
      communityId = { history.state.view communityId with
        label := ((history.state.view communityId).row.map fun row => row.1.toUInt64).or
          (history.state.view communityId).label
        hosted := (history.state.view communityId).row.elim (history.state.view communityId).hosted Prod.snd } := by
    rw [view_load channels hKeys, hRows]
  rw [hView]
  have hLoaded : ∀ row ∈ (history.state.view communityId).row,
      ((history.state.view communityId).row.map fun row => row.1.toUInt64).or (history.state.view communityId).label =
        some row.1.toUInt64 := by
    intro row hRow
    rw [hRow]
    rfl
  refine .of_login hQuiet ?_ ?_ ?_ (fun _ => id) (h.settled_of_quiet hQuiet) ?_ ?_
  · intro stage hStage
    cases stage with
    | unlock => trivial
    | readRows => trivial
    | loadCommunities rows channels => exact hStage
    | collect => exact hLoaded
    | restore todo restored => exact ⟨hLoaded, hStage.2⟩
    | applyUpdates restored => exact ⟨hLoaded, hStage.2⟩
    | fillCache meks => exact ⟨hLoaded, hStage.2⟩
  · rintro _ ⟨⟩
    exact hLoaded
  · intro mek hMek
    refine ⟨h.keyLength mek hMek, fun place => ?_⟩
    cases place with
    | label =>
      obtain ⟨isHosted, hRow⟩ := h.written_of_quiet hQuiet hMek .row
      have hLabel := hLoaded _ hRow
      rwa [UInt64.toUInt64_toInt64] at hLabel
    | keychain => exact h.written_of_quiet hQuiet hMek .keychain
    | row => exact h.written_of_quiet hQuiet hMek .row
  · intro hLabel hNone
    have hUnloaded : (history.state.view communityId).row = none := hNone
    refine h.row_of_quiet hQuiet (fun hUnknown => hLabel ?_) hNone
    rw [hUnloaded, hUnknown]
    rfl
  · intro hHosted
    cases hRow : (history.state.view communityId).row with
    | none =>
      rw [hRow] at hHosted
      obtain ⟨generation, hFound⟩ := h.hosted hHosted
      cases hRow.symm.trans hFound
    | some row =>
      rw [hRow] at hHosted
      have hOwn : row.2 = true := hHosted
      exact ⟨row.1, congrArg some (Prod.ext rfl hOwn)⟩

/-- A payload in the keychain is that of a key, and the row says its generation. -/
theorem Agreed.row_of_payload {mek : MediaEncryptionKey}
    (hPayload : (history.state.view communityId).payload = some (mekPayload mek)) :
    ∃ isHosted, (history.state.view communityId).row = some (mek.generation.toInt64, isHosted) := by
  have hSettled := h.settled_of_quiet hQuiet
  unfold KeyView.Settled at hSettled
  rw [hPayload] at hSettled
  obtain ⟨other, hSame, -, hRow⟩ := hSettled
  rwa [mekPayload_injective hSame]

theorem Agreed.storedMek_of_payload {payload : List UInt8}
    (hPayload : (history.state.view communityId).payload = some payload) :
    ∃ mek, storedMek payload = some mek ∧ mek.key.length = 32 ∧ payload = mekPayload mek := by
  have hSettled := h.settled_of_quiet hQuiet
  unfold KeyView.Settled at hSettled
  rw [hPayload] at hSettled
  obtain ⟨mek, rfl, hKey, -⟩ := hSettled
  exact ⟨mek, storedMek_mekPayload hKey, hKey, rfl⟩

/-- The key of a community of one's own is drawn anew. -/
theorem regenerate_advances (hOpen : history.state.unlocked = true) {call : LoginCall}
    {todo : List (String × Bool)} {restored : Restored}
    (hIn : Task.login call (.restore ((communityId, true) :: todo) restored) ∈ history.pool.running)
    (hMissing : (history.state.vault.lookup communityId).bind storedMek = none) (mek : MediaEncryptionKey)
    (hFirst : mek.generation = 1) (hKey : mek.key.length = 32) :
    Advances communityId history task ((history.state.storeKey communityId (mekPayload mek)).view communityId)
      (some (.login call (.restore todo
        ⟨restored.visited ++ [communityId], restored.meks ++ [(communityId, mek)], restored.regenerated ++ [communityId]⟩))) := by
  obtain ⟨hLoaded, hOwn, hFinds, hRegenerated⟩ := h.meets _ hIn
  have hNone : (history.state.view communityId).payload = none := by
    cases hPayload : (history.state.view communityId).payload with
    | none => rfl
    | some payload =>
      obtain ⟨other, hStored, -⟩ := h.storedMek_of_payload hQuiet hPayload
      have hFound : (history.state.vault.lookup communityId).bind storedMek = some other :=
        Option.bind_eq_some_iff.mpr ⟨payload, hPayload, hStored⟩
      cases hMissing.symm.trans hFound
  obtain ⟨generation, hRow⟩ := hOwn List.mem_cons_self
  have hGeneration : generation = 1 := by
    have hSettled := h.settled_of_quiet hQuiet
    unfold KeyView.Settled at hSettled
    rw [hNone] at hSettled
    exact hSettled generation hRow
  subst hGeneration
  -- Nobody has found a key here, so that nothing is said of the payload yet.
  have hNobody : ∀ {meks}, (history.state.view communityId).Finds communityId meks → ∀ other, (communityId, other) ∉ meks := by
    intro meks hMeks other hOther
    cases hNone.symm.trans (hMeks other hOther).2
  have hNotYet : ∀ {ids}, (history.state.view communityId).Regenerated communityId ids → communityId ∉ ids := by
    intro ids hIds hOther
    obtain ⟨other, -, hPayload⟩ := hIds hOther
    cases hNone.symm.trans hPayload
  rw [view_storeKey _ _ _ hOpen, if_pos rfl]
  refine .of_login hQuiet ?_ ?_ ?_ (fun _ => id) ⟨mek, rfl, hKey, true, hFirst ▸ hRow⟩ (h.row_of_quiet hQuiet) h.hosted
  · intro stage hStage
    cases stage with
    | unlock => trivial
    | readRows => trivial
    | loadCommunities rows channels => exact hStage
    | collect => exact hStage
    | restore todo restored =>
      exact ⟨hStage.1, hStage.2.1, fun other hOther => absurd hOther (hNobody hStage.2.2.1 other),
        fun hOther => absurd hOther (hNotYet hStage.2.2.2)⟩
    | applyUpdates restored =>
      exact ⟨hStage.1, fun other hOther => absurd hOther (hNobody hStage.2.1 other),
        fun hOther => absurd hOther (hNotYet hStage.2.2)⟩
    | fillCache meks => exact ⟨hStage.1, fun other hOther => absurd hOther (hNobody hStage.2 other)⟩
  · rintro _ ⟨⟩
    refine ⟨hLoaded, fun _ => ⟨1, hRow⟩, fun other hOther => ?_, fun _ => ⟨mek, hFirst, rfl⟩⟩
    rcases List.mem_append.mp hOther with hOld | hNew
    · exact absurd hOld (hNobody hFinds other)
    · cases List.mem_singleton.mp hNew
      exact ⟨hKey, rfl⟩
  · intro other hOther
    cases hNone.symm.trans (h.written_of_quiet hQuiet hOther .keychain)

theorem restore_advances (hOpen : history.state.unlocked = true) {call : LoginCall} {visited : String} {isHosted : Bool}
    {todo : List (String × Bool)} {restored : Restored}
    (hIn : Task.login call (.restore ((visited, isHosted) :: todo) restored) ∈ history.pool.running) :
    Advances communityId history (.login call (.restore ((visited, isHosted) :: todo) restored))
      ((restoreMek (call.freshKey visited) visited isHosted restored history.state).2.view communityId)
      (some (.login call (.restore todo
        (restoreMek (call.freshKey visited) visited isHosted restored history.state).1))) := by
  obtain ⟨hLoaded, hOwn, hFinds, hRegenerated⟩ := h.meets _ hIn
  have hRest : (communityId, true) ∈ todo → ∃ generation, (history.state.view communityId).row = some (generation, true) :=
    fun hMem => hOwn (List.mem_cons_of_mem _ hMem)
  have hSkipped : ∀ rest ∈ some (Task.login call (.restore todo
      ⟨restored.visited ++ [visited], restored.meks, restored.regenerated⟩)),
      rest.Meets communityId (history.state.view communityId) := by
    rintro _ ⟨⟩
    exact ⟨hLoaded, hRest, hFinds, hRegenerated⟩
  unfold restoreMek
  rw [if_pos hOpen]
  cases hFound : (history.state.vault.lookup visited).bind storedMek with
  | some mek =>
    refine .of_idle h nofun ?_
    rintro _ ⟨⟩
    refine ⟨hLoaded, hRest, fun other hOther => ?_, hRegenerated⟩
    rcases List.mem_append.mp hOther with hOld | hNew
    · exact hFinds other hOld
    · cases List.mem_singleton.mp hNew
      obtain ⟨payload, hPayload, hStored⟩ := Option.bind_eq_some_iff.mp hFound
      obtain ⟨found, hSame, hKey, rfl⟩ := h.storedMek_of_payload hQuiet hPayload
      cases hStored.symm.trans hSame
      exact ⟨hKey, hPayload⟩
  | none =>
    cases isHosted with
    | false => exact .of_idle h nofun hSkipped
    | true =>
      by_cases hHere : visited = communityId
      · subst hHere
        exact regenerate_advances h hQuiet hOpen hIn hFound _ rfl (call.freshKey visited).property
      · have hView : (history.state.storeKey visited (mekPayload ⟨1, (call.freshKey visited).val⟩)).view communityId =
            history.state.view communityId :=
          (view_storeKey _ _ _ hOpen _).trans (if_neg (Ne.symm hHere))
        change Advances communityId history _ ((history.state.storeKey visited _).view communityId) _
        rw [hView]
        refine .of_idle h nofun ?_
        rintro _ ⟨⟩
        refine ⟨hLoaded, hRest, fun other hOther => ?_, fun hOther => ?_⟩
        · rcases List.mem_append.mp hOther with hOld | hNew
          · exact hFinds other hOld
          · cases List.mem_singleton.mp hNew
            exact absurd rfl hHere
        · rcases List.mem_append.mp hOther with hOld | hNew
          · exact hRegenerated hOld
          · exact absurd (List.mem_singleton.mp hNew).symm hHere

theorem applyUpdates_advances {call : LoginCall} {restored : Restored}
    (hIn : Task.login call (.applyUpdates restored) ∈ history.pool.running) :
    Advances communityId history (.login call (.applyUpdates restored))
      ((restored.regenerated.foldl (fun state id => state.setGeneration id 1)
        (restored.visited.foldl (fun state visited => fillPseudonym crypto visited state) history.state)).view communityId)
      (some (.login call (.fillCache restored.meks))) := by
  obtain ⟨hLoaded, hFinds, hRegenerated⟩ := h.meets _ hIn
  have hView : (restored.regenerated.foldl (fun state id => state.setGeneration id 1)
      (restored.visited.foldl (fun state visited => fillPseudonym crypto visited state) history.state)).view communityId =
        history.state.view communityId := by
    rw [view_setGenerations, view_fillPseudonyms]
    split
    next hAgain =>
      obtain ⟨mek, hFirst, hPayload⟩ := hRegenerated hAgain
      obtain ⟨isHosted, hRow⟩ := h.row_of_payload hQuiet hPayload
      have hLabel := hLoaded _ hRow
      rw [UInt64.toUInt64_toInt64, hFirst] at hLabel
      have hSame : (history.state.view communityId).label.map (fun _ => (1 : UInt64)) =
          (history.state.view communityId).label := by
        rw [hLabel]
        rfl
      rw [hSame]
    next => rfl
  rw [hView]
  refine .of_idle h nofun ?_
  rintro _ ⟨⟩
  exact ⟨hLoaded, hFinds⟩

theorem fillCache_advances {call : LoginCall} {meks : List (String × MediaEncryptionKey)}
    (hIn : Task.login call (.fillCache meks) ∈ history.pool.running) :
    Advances communityId history (.login call (.fillCache meks))
      ((meks.foldl (fun state found => state.cacheMek found.1 found.2) history.state).view communityId) none := by
  obtain ⟨hLoaded, hFinds⟩ := h.meets _ hIn
  obtain ⟨cached, hView, hCached⟩ := @view_fillCache communityId meks history.state
  rw [hView]
  refine .of_login hQuiet ?_ (fun _ hNone => nomatch hNone) ?_ ?_ (h.settled_of_quiet hQuiet) (h.row_of_quiet hQuiet) h.hosted
  · intro stage hStage
    cases stage <;> exact hStage
  · intro mek hMek
    have hThis : cached = some mek := hMek
    rcases hCached with hOld | ⟨other, hFound, hNew⟩
    · have hFormer : mek ∈ (history.state.view communityId).cached := hOld.symm.trans hThis
      refine ⟨h.keyLength mek hFormer, fun place => ?_⟩
      cases place with
      | label => exact h.written_of_quiet hQuiet hFormer .label
      | keychain => exact h.written_of_quiet hQuiet hFormer .keychain
      | row => exact h.written_of_quiet hQuiet hFormer .row
    · cases hThis.symm.trans hNew
      obtain ⟨hKey, hPayload⟩ := hFinds mek hFound
      obtain ⟨isHosted, hRow⟩ := h.row_of_payload hQuiet hPayload
      refine ⟨hKey, fun place => ?_⟩
      cases place with
      | label =>
        have hLabel := hLoaded _ hRow
        rwa [UInt64.toUInt64_toInt64] at hLabel
      | keychain => exact hPayload
      | row => exact ⟨isHosted, hRow⟩
  · -- A key that is cached already is the one in the keychain.
    intro mek hMek
    rcases hCached with hOld | ⟨other, hFound, hNew⟩
    · exact hOld.trans hMek
    · have hPayload : _ = some (mekPayload mek) := h.written_of_quiet hQuiet hMek .keychain
      have hSame := mekPayload_injective (Option.some.inj (hPayload.symm.trans (hFinds other hFound).2))
      rw [hSame]
      exact hNew

end

theorem login_advances (h : Agreed communityId history) (hSession : InSession history) {call : LoginCall}
    {stage : LoginStage} (hIn : Task.login call stage ∈ history.pool.running) :
    Advances communityId history (.login call stage)
      ((Result.state ((Task.advance crypto (.login call stage)).run history.state)).view communityId)
      (nextTask ((Task.advance crypto (.login call stage)).run history.state)) := by
  by_cases hStarted : (Task.login call stage).LoggingIn
  · have hIdentity : history.state.identity.isSome := by
      refine hSession.started _ hIn ?_
      cases stage <;> exact hStarted
    have hOpen := hSession.unlocked hIdentity
    have hQuiet : ∀ other ∈ history.pool.running, ∀ mek, other.carried ≠ some (communityId, mek) := by
      intro other hOther mek hCarried
      cases (hSession.apart _ hIn hStarted other hOther).symm.trans hCarried
    have hMeets := h.meets _ hIn
    cases stage with
    | unlock => exact hStarted.elim
    | readRows =>
      refine .of_idle h nofun ?_
      rintro _ ⟨⟩
      exact ⟨hSession.rows, rfl⟩
    | loadCommunities rows channels => exact loadCommunities_advances h hQuiet hIn
    | collect =>
      refine .of_idle h nofun ?_
      rintro _ ⟨⟩
      refine ⟨hMeets, fun hMem => ?_, fun _ => nofun, nofun⟩
      obtain ⟨community, hCommunity, hSame⟩ := List.mem_map.mp hMem
      obtain ⟨rfl, hOwn⟩ := Prod.mk.inj hSame
      refine h.hosted (List.any_eq_true.mpr ⟨community, hCommunity, ?_⟩)
      rw [beq_self_eq_true, hOwn]
      rfl
    | restore todo restored =>
      cases todo with
      | nil =>
        refine .of_idle h nofun ?_
        rintro _ ⟨⟩
        exact ⟨hMeets.1, hMeets.2.2⟩
      | cons visited todo => exact restore_advances h hQuiet hOpen hIn
    | applyUpdates restored => exact applyUpdates_advances h hQuiet hIn
    | fillCache meks => exact fillCache_advances h hQuiet hIn
  · cases stage with
    | unlock =>
      refine .of_idle h nofun ?_
      rintro _ ⟨⟩
      trivial
    | _ => exact absurd trivial hStarted

end

end Rekindle.Community
