import Rekindle.Community.KeyLabels

/-! # Sections keep keys and labels in agreement

What a section has to leave as it is, and that the sections of fetches, joins and sends do.
-/
namespace Rekindle.Community
set_option autoImplicit false
open ByteWords Server Fallible Interleaving Runs

/-! ## What a section has to show -/

/-- A change of the view that leaves the cached key and what is noted of it. -/
structure KeyView.Kept (before after : KeyView) : Prop where
  cached : after.cached = before.cached
  known : before.label ≠ none → after.label ≠ none
  written : ∀ mek ∈ before.cached, ∀ place, before.Written mek place → after.Written mek place
  rowAgrees : ∀ mek ∈ before.cached, before.RowAgrees mek → after.RowAgrees mek

/-- What the task goes on as. -/
def nextTask : EStateM.Result String ClientState (Task ⊕ Unit) → Option Task
  | .ok (.inl rest) _ => some rest
  | _ => none

theorem goesOn_of_nextTask {result : EStateM.Result String ClientState (Task ⊕ Unit)} {rest : Task}
    (h : rest ∈ nextTask result) : GoesOn result rest := by
  unfold nextTask at h
  split at h
  · cases h
    exact ⟨_, rfl⟩
  · cases h

theorem nextTask_of_goesOn {result : EStateM.Result String ClientState (Task ⊕ Unit)} {rest : Task}
    (h : GoesOn result rest) : rest ∈ nextTask result := by
  obtain ⟨state, rfl⟩ := h
  rfl

/-- A section of the task leaves the community agreed, given what the other tasks are going to do. -/
structure Advances (communityId : String) (history : KeyHistory) (task : Task) (after : KeyView)
    (next : Option Task) : Prop where
  meets : ∀ other ∈ history.pool.running, other.Meets communityId (history.state.view communityId) →
    other.Meets communityId after
  continues : ∀ rest ∈ next, rest.Meets communityId after
  keyLength : ∀ mek ∈ after.cached, mek.key.length = 32
  newer : ∀ mek ∈ (history.state.view communityId).cached, ∃ later ∈ after.cached, mek.generation ≤ later.generation
  written : ∀ mek ∈ after.cached, ∀ place,
    after.Written mek place ∨
      (∃ other ∈ history.pool.running, other ≠ task ∧ other.Owes place communityId mek) ∨
      ∃ rest ∈ next, rest.Owes place communityId mek
  settled : after.cached = none → after.Settled
  stored : after.label ≠ none →
    after.row ≠ none ∨
      (∃ other ∈ history.pool.running, other ≠ task ∧ other.InsertsRow communityId) ∨
      ∃ rest ∈ next, rest.InsertsRow communityId
  hosted : after.hosted = true →
    ∃ generation, after.row = some (generation, true)

section
variable {crypto : Crypto} {communityId : String} {history : KeyHistory} {turn : Turn Request} {task : Task}

theorem state_of_turn (hTurn : turnOf history.pool turn = some task) :
    (recordAction crypto history (.turn turn)).state = Result.state ((task.advance crypto).run history.state) :=
  shared_of_turn hTurn

theorem Agreed.of_advances (h : Agreed communityId history) (hTurn : turnOf history.pool turn = some task)
    (hAdvances : Advances communityId history task
      ((Result.state ((task.advance crypto).run history.state)).view communityId)
      (nextTask ((task.advance crypto).run history.state))) :
    Agreed communityId (recordAction crypto history (.turn turn)) := by
  have hState := @state_of_turn crypto history turn task hTurn
  have hStays : ∀ other ∈ history.pool.running, other ≠ task →
      other ∈ (recordAction crypto history (.turn turn)).pool.running := by
    intro other hOther hApart
    refine mem_take_of_mem hOther ?_
    rw [hTurn]
    rintro ⟨⟩
    exact hApart rfl
  -- What another task or the next section is going to do, some task of the pool is going to do.
  have hSomeone {P : Task → Prop} (hPending : (∃ other ∈ history.pool.running, other ≠ task ∧ P other) ∨
      ∃ rest ∈ nextTask ((task.advance crypto).run history.state), P rest) :
      ∃ other ∈ (recordAction crypto history (.turn turn)).pool.running, P other := by
    rcases hPending with ⟨other, hOther, hApart, hP⟩ | ⟨rest, hRest, hP⟩
    · exact ⟨other, hStays other hOther hApart, hP⟩
    · exact ⟨rest, mem_take_of_goesOn hTurn (goesOn_of_nextTask hRest), hP⟩
  constructor
  · intro other hOther
    rw [hState]
    rcases mem_take hOther with hOld | ⟨request, rfl⟩ | ⟨former, hFormer, hNext⟩
    · exact hAdvances.meets other hOld (h.meets other hOld)
    · cases request with
      | login call => trivial
      | join call => exact fun _ => trivial
      | fetch other reply => trivial
      | send call => trivial
    · cases hTurn.symm.trans hFormer
      exact hAdvances.continues other (nextTask_of_goesOn hNext)
  · rw [hState]
    exact hAdvances.keyLength
  · rw [hState]
    intro mek hMek place
    exact (hAdvances.written mek hMek place).imp id hSomeone
  · rw [hState]
    exact hAdvances.settled
  · rw [hState]
    exact fun hLabel => (hAdvances.stored hLabel).imp id hSomeone
  · rw [hState]
    exact hAdvances.hosted

/-- Who is at work on the key of a community relies on what is kept. -/
theorem Task.Meets.kept {before after : KeyView} (hKept : before.Kept after) (hNoLogin : ¬task.LoggingIn)
    (h : task.Meets communityId before) : task.Meets communityId after := by
  have hCarries {joined : Option Joined} (hBefore : before.Carries joined) : after.Carries joined := by
    cases joined with
    | none => exact hKept.cached.trans hBefore
    | some found =>
      obtain ⟨mek, hMek, hGeneration, hCached, hRow⟩ := hBefore
      exact ⟨mek, hMek, hGeneration, hKept.cached.trans hCached, hKept.rowAgrees mek hCached hRow⟩
  cases task with
  | login call stage =>
    cases stage with
    | unlock => trivial
    | _ => exact absurd trivial hNoLogin
  | join call stage =>
    intro hHere
    have hStage := h hHere
    cases stage with
    | begin => trivial
    | callServer ownerKey => trivial
    | insertCommunity ownerKey joined => exact hCarries hStage
    | readBack ownerKey joined =>
      refine ⟨hCarries hStage.1, fun found hFound => ?_⟩
      have hCarried := hStage.1
      cases hFound
      obtain ⟨mek, hMek, hGeneration, hCached, hRow⟩ := hCarried
      have hLabel : before.label = some mek.generation := hGeneration ▸ hStage.2 found rfl
      rw [hGeneration]
      exact hKept.written mek hCached .label hLabel
    | storeCached ownerKey joined details => exact ⟨hCarries hStage.1, hStage.2⟩
    | insertRow ownerKey joined details => exact ⟨hCarries hStage.1, hStage.2⟩
  | persistMek other mekEncrypted mek stage =>
    intro hHere
    obtain ⟨hCached, hPayload, hBound, hLabel⟩ := h hHere
    exact ⟨hKept.cached.trans hCached, hPayload, hBound, hKept.known hLabel⟩
  | requestMek other reply => trivial
  | receiveMek other reply => trivial
  | send call stage => trivial

variable {after : KeyView} {next : Option Task}

/-- The section does not concern the key of the community. -/
theorem Advances.of_same (h : Agreed communityId history)
    (hNext : ∀ rest ∈ next, rest.Meets communityId (history.state.view communityId))
    (hOwes : ∀ place mek, task.Owes place communityId mek → ∃ rest ∈ next, rest.Owes place communityId mek)
    (hInserts : task.InsertsRow communityId → ∃ rest ∈ next, rest.InsertsRow communityId) :
    Advances communityId history task (history.state.view communityId) next := by
  constructor
  · exact fun _ _ hMeets => hMeets
  · exact hNext
  · exact h.keyLength
  · exact fun mek hMek => ⟨mek, hMek, UInt64.le_refl _⟩
  · intro mek hMek place
    refine (h.written mek hMek place).imp id ?_
    rintro ⟨other, hOther, hOwed⟩
    by_cases hSame : other = task
    · subst hSame
      exact .inr (hOwes place mek hOwed)
    · exact .inl ⟨other, hOther, hSame, hOwed⟩
  · exact h.settled
  · intro hLabel
    refine (h.stored hLabel).imp id ?_
    rintro ⟨other, hOther, hIn⟩
    by_cases hSame : other = task
    · subst hSame
      exact .inr (hInserts hIn)
    · exact .inl ⟨other, hOther, hSame, hIn⟩
  · exact h.hosted

/-- The section is of a task that is at work on the key of the community. -/
theorem Advances.of_kept (h : Agreed communityId history) (hApart : ∀ other ∈ history.pool.running, ¬other.LoggingIn)
    (hKept : (history.state.view communityId).Kept after)
    (hNext : ∀ rest ∈ next, rest.Meets communityId after)
    (hOwes : ∀ mek ∈ (history.state.view communityId).cached, ∀ place, task.Owes place communityId mek →
      after.Written mek place ∨
        (∃ other ∈ history.pool.running, other ≠ task ∧ other.Owes place communityId mek) ∨
        ∃ rest ∈ next, rest.Owes place communityId mek)
    (hSettled : (history.state.view communityId).cached = none →
      (history.state.view communityId).Settled → after.Settled)
    (hRow : (history.state.view communityId).row ≠ none → after.row ≠ none)
    (hStored : task.InsertsRow communityId ∨ (history.state.view communityId).label = none →
      after.label ≠ none →
      after.row ≠ none ∨ ∃ rest ∈ next, rest.InsertsRow communityId)
    (hHosted : after.hosted = true →
      ∃ generation, after.row = some (generation, true)) :
    Advances communityId history task after next := by
  constructor
  · exact fun other hOther hMeets => hMeets.kept hKept (hApart other hOther)
  · exact hNext
  · rw [hKept.cached]
    exact h.keyLength
  · rw [hKept.cached]
    exact fun mek hMek => ⟨mek, hMek, UInt64.le_refl _⟩
  · rw [hKept.cached]
    intro mek hMek place
    rcases h.written mek hMek place with hWritten | ⟨other, hOther, hOwed⟩
    · exact .inl (hKept.written mek hMek place hWritten)
    · by_cases hSame : other = task
      · subst hSame
        exact hOwes mek hMek place hOwed
      · exact .inr (.inl ⟨other, hOther, hSame, hOwed⟩)
  · rw [hKept.cached]
    exact fun hNone => hSettled hNone (h.settled hNone)
  · intro hLabel
    by_cases hFormer : (history.state.view communityId).label = none
    · exact (hStored (.inr hFormer) hLabel).imp id .inr
    · rcases h.stored hFormer with hOld | ⟨other, hOther, hIn⟩
      · exact .inl (hRow hOld)
      · by_cases hSame : other = task
        · subst hSame
          exact (hStored (.inl hIn) hLabel).imp id .inr
        · exact .inr (.inl ⟨other, hOther, hSame, hIn⟩)
  · exact hHosted

/-! ## Sections of fetches -/

theorem Task.InsertsRow.carried (h : task.InsertsRow communityId) : ∃ mek, task.carried = some (communityId, mek) := by
  cases task with
  | join call stage =>
    obtain ⟨rfl, hCarried⟩ := h
    cases stage with
    | begin => exact absurd rfl hCarried
    | callServer ownerKey => exact absurd rfl hCarried
    | _ => exact ⟨_, rfl⟩
  | _ => exact h.elim

theorem Task.InsertsRow.owes (h : task.InsertsRow communityId) : .row ∈ task.owed := by
  cases task with
  | join call stage =>
    obtain ⟨-, hCarried⟩ := h
    cases stage with
    | begin => exact absurd rfl hCarried
    | callServer ownerKey => exact absurd rfl hCarried
    | _ => simp [Task.owed]
  | _ => exact h.elim

/-- The key that a task is at work on is the cached one. -/
theorem Task.Meets.cached_of_carried {view : KeyView} {mek : Option MediaEncryptionKey} (h : task.Meets communityId view)
    (hCarried : task.carried = some (communityId, mek)) : view.cached = mek := by
  have hCarries : ∀ joined, view.Carries joined → view.cached = joined.bind Joined.mek := by
    intro joined hJoined
    cases joined with
    | none => exact hJoined
    | some found =>
      obtain ⟨mek, hMek, -, hCached, -⟩ := hJoined
      exact hCached.trans hMek.symm
  cases task with
  | persistMek other mekEncrypted mek stage =>
    cases hCarried
    exact (h rfl).1
  | join call stage =>
    cases stage with
    | begin => cases hCarried
    | callServer ownerKey => cases hCarried
    | insertCommunity ownerKey joined =>
      cases hCarried
      exact hCarries joined (h rfl)
    | readBack ownerKey joined =>
      cases hCarried
      exact hCarries joined (h rfl).1
    | storeCached ownerKey joined details =>
      cases hCarried
      exact hCarries joined (h rfl).1
    | insertRow ownerKey joined details =>
      cases hCarried
      exact hCarries joined (h rfl).1
  | _ => cases hCarried

/-- The task is not at work on the key of the community. -/
theorem Advances.of_idle (h : Agreed communityId history) (hCarried : ∀ mek, task.carried ≠ some (communityId, mek))
    (hNext : ∀ rest ∈ next, rest.Meets communityId (history.state.view communityId)) :
    Advances communityId history task (history.state.view communityId) next := by
  refine .of_same h hNext (fun place mek hOwes => absurd hOwes.1 (hCarried _)) fun hInserts => ?_
  obtain ⟨mek, hMek⟩ := hInserts.carried
  exact absurd hMek (hCarried mek)

/-- Another community's key. -/
theorem persist_advances_elsewhere (h : Agreed communityId history) (hOpen : history.state.unlocked = true)
    {other : String} (hOther : other ≠ communityId) (mekEncrypted : List UInt8) (mek : MediaEncryptionKey)
    (stage : PersistStage) :
    Advances communityId history (.persistMek other mekEncrypted mek stage)
      ((Result.state ((Task.advance crypto (.persistMek other mekEncrypted mek stage)).run history.state)).view communityId)
      (nextTask ((Task.advance crypto (.persistMek other mekEncrypted mek stage)).run history.state)) := by
  have hView : (Result.state ((Task.advance crypto (.persistMek other mekEncrypted mek stage)).run
      history.state)).view communityId = history.state.view communityId := by
    cases stage with
    | setGeneration => exact (view_setGeneration _ other communityId _).trans (if_neg (Ne.symm hOther))
    | storeKey => exact (view_storeKey _ other communityId hOpen _).trans (if_neg (Ne.symm hOther))
    | updateRow =>
      change ((if history.state.identity.isSome = true then _ else _ : ClientState).view communityId) = _
      split
      · exact (view_updateGeneration _ other communityId _).trans (if_neg (Ne.symm hOther))
      · rfl
  rw [hView]
  refine .of_idle h (fun carried hCarried => ?_) fun rest hRest => ?_
  · cases hCarried
    exact hOther rfl
  · cases stage with
    | setGeneration =>
      cases hRest
      exact fun hHere => absurd hHere hOther
    | storeKey =>
      cases hRest
      exact fun hHere => absurd hHere hOther
    | updateRow => cases hRest

/-- While somebody is at work on a key, nobody is logging in. -/
theorem InSession.no_login (h : InSession history) (hIn : task ∈ history.pool.running) (hCarried : task.carried ≠ none) :
    ∀ other ∈ history.pool.running, ¬other.LoggingIn :=
  fun other hOther hLogin => hCarried (h.apart other hOther hLogin task hIn)

section
variable (h : Agreed communityId history) (hSession : InSession history) {mekEncrypted : List UInt8}
  {mek : MediaEncryptionKey}
include h hSession

theorem setGeneration_advances (hIn : Task.persistMek communityId mekEncrypted mek .setGeneration ∈ history.pool.running) :
    Advances communityId history (.persistMek communityId mekEncrypted mek .setGeneration)
      ((history.state.setGeneration communityId mek.generation).view communityId)
      (some (.persistMek communityId mekEncrypted mek .storeKey)) := by
  obtain ⟨hCached, hPayload, hBound, hLabel⟩ := h.meets _ hIn rfl
  obtain ⟨label, hFormer⟩ := Option.ne_none_iff_exists'.mp hLabel
  rw [view_setGeneration, if_pos rfl, hFormer, Option.map_some]
  refine .of_kept h (hSession.no_login hIn (Option.some_ne_none _))
    ⟨rfl, fun _ => Option.some_ne_none _, ?_, fun _ _ hRow => hRow⟩ ?_ ?_ (fun _ => id) id ?_ h.hosted
  · intro other hOther place hWritten
    cases hCached.symm.trans hOther
    cases place with
    | label => rfl
    | keychain => exact hWritten
    | row => exact hWritten
  · rintro rest ⟨⟩
    exact fun _ => ⟨hCached, hPayload, hBound, Option.some_ne_none _⟩
  · intro other hOther place hOwes
    cases hCached.symm.trans hOther
    cases place with
    | label => exact .inl rfl
    | keychain => exact .inr (.inr ⟨_, rfl, rfl, List.mem_cons_self⟩)
    | row => exact .inr (.inr ⟨_, rfl, rfl, List.mem_cons_of_mem _ List.mem_cons_self⟩)
  · rintro (hInserts | hNone)
    · exact hInserts.elim
    · exact absurd hNone hLabel

theorem storeKey_advances (hOpen : history.state.unlocked = true)
    (hIn : Task.persistMek communityId mekEncrypted mek .storeKey ∈ history.pool.running) :
    Advances communityId history (.persistMek communityId mekEncrypted mek .storeKey)
      ((history.state.storeKey communityId mekEncrypted).view communityId)
      (some (.persistMek communityId mekEncrypted mek .updateRow)) := by
  obtain ⟨hCached, hPayload, hBound, hLabel⟩ := h.meets _ hIn rfl
  rw [view_storeKey _ _ _ hOpen, if_pos rfl]
  refine .of_kept h (hSession.no_login hIn (Option.some_ne_none _)) ⟨rfl, id, ?_, fun _ _ hRow => hRow⟩ ?_ ?_ ?_ id ?_
    h.hosted
  · intro other hOther place hWritten
    cases hCached.symm.trans hOther
    cases place with
    | label => exact hWritten
    | keychain => exact congrArg some hPayload
    | row => exact hWritten
  · rintro rest ⟨⟩
    exact fun _ => ⟨hCached, hPayload, hBound, hLabel⟩
  · intro other hOther place hOwes
    cases hCached.symm.trans hOther
    cases place with
    | label => exact absurd hOwes.2 (by simp [Task.owed])
    | keychain => exact .inl (congrArg some hPayload)
    | row => exact .inr (.inr ⟨_, rfl, rfl, List.mem_cons_self⟩)
  · intro hNone
    cases hCached.symm.trans hNone
  · rintro (hInserts | hNone)
    · exact hInserts.elim
    · exact absurd hNone hLabel

omit hSession in
/-- A community that is in memory has a row, or a join is going to insert it. -/
theorem row_or_owed (hCached : (history.state.view communityId).cached = some mek)
    (hLabel : (history.state.view communityId).label ≠ none) :
    (history.state.view communityId).row ≠ none ∨
      ∃ other ∈ history.pool.running, other.InsertsRow communityId ∧ other.Owes .row communityId mek := by
  refine (h.stored hLabel).imp id ?_
  rintro ⟨other, hOther, hInserts⟩
  obtain ⟨carried, hCarried⟩ := hInserts.carried
  have hSame : carried = some mek := ((h.meets other hOther).cached_of_carried hCarried).symm.trans hCached
  exact ⟨other, hOther, hInserts, hSame ▸ hCarried, hInserts.owes⟩

theorem updateRow_advances (hIn : Task.persistMek communityId mekEncrypted mek .updateRow ∈ history.pool.running) :
    Advances communityId history (.persistMek communityId mekEncrypted mek .updateRow)
      ((history.state.mapDb fun db => db.updateGeneration communityId (generationColumn mek.generation)).view
        communityId) none := by
  obtain ⟨hCached, hPayload, hBound, hLabel⟩ := h.meets _ hIn rfl
  have hColumn : generationColumn mek.generation = mek.generation.toInt64 := if_pos hBound
  rw [view_updateGeneration, if_pos rfl, hColumn]
  refine .of_kept h (hSession.no_login hIn (Option.some_ne_none _)) ⟨rfl, id, ?_, ?_⟩
    (fun _ hNone => nomatch hNone) ?_ ?_ ?_ ?_ ?_
  · intro other hOther place hWritten
    cases hCached.symm.trans hOther
    cases place with
    | label => exact hWritten
    | keychain => exact hWritten
    | row =>
      obtain ⟨isHosted, hRow⟩ := hWritten
      exact ⟨isHosted, by rw [hRow]; rfl⟩
  · intro other hOther _ row hRow
    cases hCached.symm.trans hOther
    obtain ⟨former, -, rfl⟩ := Option.map_eq_some_iff.mp hRow
    rfl
  · intro other hOther place hOwes
    cases hCached.symm.trans hOther
    cases place with
    | label => exact absurd hOwes.2 (by simp [Task.owed])
    | keychain => exact absurd hOwes.2 (by simp [Task.owed])
    | row =>
      rcases row_or_owed h hCached hLabel with hRow | ⟨other, hOther, hInserts, hOwed⟩
      · obtain ⟨row, hRow⟩ := Option.ne_none_iff_exists'.mp hRow
        exact .inl ⟨row.2, by rw [hRow]; rfl⟩
      · refine .inr (.inl ⟨other, hOther, ?_, hOwed⟩)
        rintro rfl
        exact hInserts
  · intro hNone
    cases hCached.symm.trans hNone
  · intro hRow hNone
    exact hRow (Option.map_eq_none_iff.mp hNone)
  · rintro (hInserts | hNone)
    · exact hInserts.elim
    · exact absurd hNone hLabel
  · intro hHosted
    obtain ⟨generation, hRow⟩ := h.hosted hHosted
    exact ⟨mek.generation.toInt64, by rw [hRow]; rfl⟩

end

theorem persist_advances (h : Agreed communityId history) (hSession : InSession history) {other : String}
    {mekEncrypted : List UInt8} {mek : MediaEncryptionKey} {stage : PersistStage}
    (hIn : Task.persistMek other mekEncrypted mek stage ∈ history.pool.running) :
    Advances communityId history (.persistMek other mekEncrypted mek stage)
      ((Result.state ((Task.advance crypto (.persistMek other mekEncrypted mek stage)).run history.state)).view communityId)
      (nextTask ((Task.advance crypto (.persistMek other mekEncrypted mek stage)).run history.state)) := by
  have hIdentity : history.state.identity.isSome = true := hSession.started _ hIn trivial
  have hOpen := hSession.unlocked hIdentity
  by_cases hHere : other = communityId
  · subst hHere
    cases stage with
    | setGeneration => exact setGeneration_advances h hSession hIn
    | storeKey => exact storeKey_advances h hSession hOpen hIn
    | updateRow =>
      change Advances other history _
        ((if history.state.identity.isSome = true then _ else _ : ClientState).view other) none
      rw [if_pos hIdentity]
      exact updateRow_advances h hSession hIn
  · exact persist_advances_elsewhere h hOpen hHere mekEncrypted mek stage

/-! ## Keys that arrive -/

/-- Who is not at work on the key does not rely on the cache. -/
theorem Task.Meets.cacheMek {view : KeyView} (h : task.Meets communityId view) (hNoLogin : ¬task.LoggingIn)
    (hCarried : ∀ mek, task.carried ≠ some (communityId, mek)) (mek : MediaEncryptionKey) :
    task.Meets communityId { view with cached := some mek } := by
  cases task with
  | login call stage =>
    cases stage with
    | unlock => trivial
    | _ => exact absurd trivial hNoLogin
  | join call stage =>
    intro hHere
    cases stage with
    | begin => trivial
    | callServer ownerKey => trivial
    | _ => exact absurd (congrArg (fun here => some (here, _)) hHere) (hCarried _)
  | persistMek other mekEncrypted mek stage =>
    intro hHere
    exact absurd (congrArg (fun here => some (here, _)) hHere) (hCarried _)
  | _ => trivial

theorem arrives_advances (h : Agreed communityId history) {mek : MediaEncryptionKey}
    (hArrives : Arrives history communityId mek) (hKey : mek.key.length = 32) {rest : Task}
    (hIdle : task.carried = none) (hOwes : ∀ place, rest.Owes place communityId mek)
    (hRest : rest.Meets communityId { history.state.view communityId with cached := some mek }) :
    Advances communityId history task ((history.state.cacheMek communityId mek).view communityId) (some rest) := by
  rw [view_cacheMek, if_pos rfl]
  constructor
  · intro other hOther hMeets
    by_cases hCarried : ∃ carried, other.carried = some (communityId, carried)
    · -- It is at work on the same key, which is cached already.
      obtain ⟨carried, hCarried⟩ := hCarried
      have hSame : carried = some mek := hArrives.alone other hOther _ hCarried rfl
      have hCached := hMeets.cached_of_carried hCarried
      rw [hSame] at hCached
      rwa [← hCached]
    · exact hMeets.cacheMek (hArrives.loggedIn other hOther) (fun carried hThis => hCarried ⟨carried, hThis⟩) mek
  · rintro _ ⟨⟩
    exact hRest
  · rintro _ ⟨⟩
    exact hKey
  · exact fun former hFormer => ⟨mek, rfl, hArrives.newer former hFormer⟩
  · rintro _ ⟨⟩ place
    exact .inr (.inr ⟨rest, rfl, hOwes place⟩)
  · exact nofun
  · intro hLabel
    refine (h.stored hLabel).imp id fun ⟨other, hOther, hInserts⟩ => .inl ⟨other, hOther, ?_, hInserts⟩
    rintro rfl
    obtain ⟨carried, hCarried⟩ := hInserts.carried
    cases hIdle.symm.trans hCarried
  · exact h.hosted

/-- A key of another community arrives. -/
theorem cacheMek_elsewhere (h : Agreed communityId history) {other : String} (hOther : other ≠ communityId)
    (mek : MediaEncryptionKey) {rest : Task} (hIdle : task.carried = none)
    (hRest : rest.Meets communityId (history.state.view communityId)) :
    Advances communityId history task ((history.state.cacheMek other mek).view communityId) (some rest) := by
  rw [view_cacheMek, if_neg (Ne.symm hOther)]
  refine .of_idle h (fun carried hCarried => ?_) fun _ hNext => ?_
  · cases hIdle.symm.trans hCarried
  · cases hNext
    exact hRest

theorem Reply.mek?_key {reply : Reply} {mekEncrypted : List UInt8} {mek : MediaEncryptionKey}
    (h : reply.mek? = some (mekEncrypted, mek)) : mek.key.length = 32 := by
  unfold Reply.mek? at h
  split at h
  · obtain ⟨found, hFound, hSame⟩ := Option.map_eq_some_iff.mp h
    cases hSame
    exact (receivedMek_key hFound).1
  · cases h

theorem receive_advances (h : Agreed communityId history) {other : String} {reply : Reply}
    (hOrderly : (Task.receiveMek other reply).Orderly history) :
    Advances communityId history (.receiveMek other reply)
      ((Result.state ((Task.advance crypto (.receiveMek other reply)).run history.state)).view communityId)
      (nextTask ((Task.advance crypto (.receiveMek other reply)).run history.state)) := by
  cases hReply : reply.mek? with
  | none =>
    have hRun : (Task.advance crypto (.receiveMek other reply)).run history.state = .ok (.inr ()) history.state := by
      simp only [Task.advance, hReply]
      rfl
    rw [hRun]
    exact .of_idle h nofun fun _ hNone => nomatch hNone
  | some found =>
    obtain ⟨mekEncrypted, mek⟩ := found
    have hRun : (Task.advance crypto (.receiveMek other reply)).run history.state =
        .ok (.inl (.persistMek other mekEncrypted mek .setGeneration)) (history.state.cacheMek other mek) := by
      simp only [Task.advance, hReply]
      rfl
    rw [hRun]
    obtain ⟨hPayload, hBound, hLabel, hArrives⟩ := hOrderly _ hReply
    by_cases hHere : other = communityId
    · subst hHere
      refine arrives_advances h hArrives (Reply.mek?_key hReply) rfl (fun place => ⟨rfl, ?_⟩) fun _ => ⟨rfl, hPayload, hBound, hLabel⟩
      cases place <;> simp [Task.owed]
    · exact cacheMek_elsewhere h hHere mek rfl fun hThis => absurd hThis hHere

/-! ## Sections of joins -/

theorem run_orThrow {α β : Type} (value : Option α) (message : String) (next : α → ClientM β) (state : ClientState) :
    (ofExcept (orThrow value message) >>= next : ClientM β).run state =
      value.elim (.error message state) fun a => (next a).run state := by
  cases value <;> rfl

/-- The first section of a command fails or leaves the state. -/
theorem begin_run (next : String → Task) (state : ClientState) :
    (do
      let ownerKey ← currentOwnerKey
      pure (.inl (next ownerKey)) : ClientM (Task ⊕ Unit)).run state =
      state.identity.elim (.error "not logged in" state) fun ownerKey => .ok (.inl (next ownerKey)) state :=
  run_orThrow state.identity _ _ state

theorem KeyView.Settled.insertRow {view : KeyView} (h : view.Settled) (generation : Int64) :
    { view with row := some (view.row.getD (generation, false)) : KeyView }.Settled := by
  unfold KeyView.Settled at h ⊢
  cases hPayload : view.payload with
  | none =>
    rw [hPayload] at h
    cases hRow : view.row with
    | none => exact nofun
    | some row =>
      rw [hRow] at h
      exact h
  | some payload =>
    rw [hPayload] at h
    obtain ⟨mek, hSame, hKey, isHosted, hRow⟩ := h
    exact ⟨mek, hSame, hKey, isHosted, by rw [hRow]; rfl⟩

theorem JoinCall.rpcResult_key {call : JoinCall} {joined : Joined} {mek : MediaEncryptionKey}
    (h : call.rpcResult = .ok (some joined)) (hMek : joined.mek = some mek) :
    mek.key.length = 32 ∧ joined.mekGeneration = mek.generation := by
  unfold JoinCall.rpcResult at h
  split at h
  · cases h
    exact (receivedMek_key hMek).imp id Eq.symm
  · cases h
  · cases h

theorem callServer_advances (h : Agreed communityId history) {call : JoinCall} {ownerKey : String}
    (hOrderly : (Task.join call (.callServer ownerKey)).Orderly history) :
    Advances communityId history (.join call (.callServer ownerKey))
      ((Result.state ((Task.advance crypto (.join call (.callServer ownerKey))).run history.state)).view communityId)
      (nextTask ((Task.advance crypto (.join call (.callServer ownerKey))).run history.state)) := by
  have hJoin : JoinOrderly history call.communityId call.rpcResult := hOrderly
  cases hResult : call.rpcResult with
  | error message =>
    have hRun : (Task.advance crypto (.join call (.callServer ownerKey))).run history.state =
        .error message history.state := by
      simp only [Task.advance, joinSection, hResult]
      rfl
    rw [hRun]
    exact .of_idle h nofun fun _ hNone => nomatch hNone
  | ok joined =>
    have hRun : (Task.advance crypto (.join call (.callServer ownerKey))).run history.state =
        .ok (.inl (.join call (.insertCommunity ownerKey joined)))
          ((joined.bind Joined.mek).elim history.state (history.state.cacheMek call.communityId)) := by
      simp only [Task.advance, joinSection, hResult]
      rfl
    rw [hRun]
    rw [hResult] at hJoin
    cases joined with
    | none =>
      refine .of_idle h nofun fun rest hRest => ?_
      cases hRest
      rintro rfl
      exact hJoin.1
    | some found =>
      obtain ⟨mek, hMek, hArrives, hRow⟩ := hJoin
      have hCached : (some found : Option Joined).bind Joined.mek = some mek := hMek
      rw [hCached]
      obtain ⟨hKey, hGeneration⟩ := JoinCall.rpcResult_key hResult hMek
      by_cases hHere : call.communityId = communityId
      · subst hHere
        refine arrives_advances h hArrives hKey rfl (fun place => ⟨congrArg some (Prod.ext rfl hMek), ?_⟩) fun _ => ?_
        · cases place <;> simp [Task.owed]
        · refine ⟨mek, hMek, hGeneration, rfl, fun row hFound => ?_⟩
          obtain ⟨former, hFormer, rfl⟩ := Option.map_eq_some_iff.mp hFound
          exact hRow former hFormer
      · exact cacheMek_elsewhere h hHere mek rfl fun hThis => absurd hThis hHere

section
variable (h : Agreed communityId history) (hSession : InSession history) {call : JoinCall} {ownerKey : String}
  {joined : Option Joined} {details : JoinDetails} (hHere : call.communityId = communityId)
include h hSession hHere

theorem insertCommunity_advances (hIn : Task.join call (.insertCommunity ownerKey joined) ∈ history.pool.running) :
    Advances communityId history (.join call (.insertCommunity ownerKey joined))
      ((history.state.insertCommunity (joinedCommunity crypto call joined)).view communityId)
      (some (.join call (.readBack ownerKey joined))) := by
  subst hHere
  have hCarries := h.meets _ hIn rfl
  have hLabel : ∀ mek ∈ (history.state.view call.communityId).cached,
      joined.elim 0 Joined.mekGeneration = mek.generation := by
    intro mek hMek
    cases joined with
    | none => cases hCarries.symm.trans hMek
    | some found =>
      obtain ⟨other, -, hGeneration, hCached, -⟩ := hCarries
      cases hCached.symm.trans hMek
      exact hGeneration
  have hView : (history.state.insertCommunity (joinedCommunity crypto call joined)).view call.communityId =
      { history.state.view call.communityId with label := some (joined.elim 0 Joined.mekGeneration), hosted := false } :=
    (view_insertCommunity _ _ _).trans (if_pos rfl)
  rw [hView]
  refine .of_kept h (hSession.no_login hIn (Option.some_ne_none _))
    ⟨rfl, fun _ => Option.some_ne_none _, ?_, fun _ _ hRow => hRow⟩ ?_ ?_ (fun _ => id) id ?_ nofun
  · intro mek hMek place hWritten
    cases place with
    | label => exact congrArg some (hLabel mek hMek)
    | keychain => exact hWritten
    | row => exact hWritten
  · rintro _ ⟨⟩ -
    refine ⟨?_, ?_⟩
    · cases joined with
      | none => exact hCarries
      | some found => exact hCarries
    · rintro found hFound
      cases hFound
      rfl
  · intro mek hMek place hOwes
    cases place with
    | label => exact .inl (congrArg some (hLabel mek hMek))
    | keychain => exact .inr (.inr ⟨_, rfl, hOwes.1, List.mem_cons_self⟩)
    | row => exact .inr (.inr ⟨_, rfl, hOwes.1, List.mem_cons_of_mem _ List.mem_cons_self⟩)
  · exact fun _ _ => .inr ⟨_, rfl, rfl, Option.some_ne_none _⟩

omit hSession in
theorem readBack_advances (hIn : Task.join call (.readBack ownerKey joined) ∈ history.pool.running) :
    Advances communityId history (.join call (.readBack ownerKey joined)) (history.state.view communityId)
      (some (.join call (.storeCached ownerKey joined (history.state.joinDetails call.communityId)))) := by
  subst hHere
  obtain ⟨hCarries, hLabel⟩ := h.meets _ hIn rfl
  refine .of_same h ?_ ?_ ?_
  · rintro _ ⟨⟩ -
    refine ⟨hCarries, fun found hFound => ?_⟩
    obtain ⟨community, hCommunity, hGeneration⟩ := Option.map_eq_some_iff.mp (hLabel found hFound)
    unfold ClientState.joinDetails
    rw [hCommunity]
    exact hGeneration
  · exact fun place mek hOwes => ⟨_, rfl, hOwes.1, hOwes.2⟩
  · exact fun _ => ⟨_, rfl, rfl, Option.some_ne_none _⟩

theorem storeCached_advances (hOpen : history.state.unlocked = true)
    (hIn : Task.join call (.storeCached ownerKey joined details) ∈ history.pool.running) :
    Advances communityId history (.join call (.storeCached ownerKey joined details))
      (((history.state.mekCache.lookup call.communityId).elim history.state fun mek =>
        history.state.storeKey call.communityId (mekPayload mek)).view communityId)
      (some (.join call (.insertRow ownerKey joined details))) := by
  subst hHere
  obtain ⟨hCarries, hLabel⟩ := h.meets _ hIn rfl
  cases hCached : history.state.mekCache.lookup call.communityId with
  | none =>
    refine .of_same h ?_ (fun place mek hOwes => ?_) fun _ => ⟨_, rfl, rfl, Option.some_ne_none _⟩
    · rintro _ ⟨⟩ -
      exact ⟨hCarries, hLabel⟩
    · have hSame := (h.meets _ hIn).cached_of_carried hOwes.1
      cases hCached.symm.trans hSame
  | some mek =>
    rw [Option.elim_some, view_storeKey _ _ _ hOpen, if_pos rfl]
    refine .of_kept h (hSession.no_login hIn (Option.some_ne_none _)) ⟨rfl, id, ?_, fun _ _ hRow => hRow⟩ ?_ ?_ ?_ id ?_
      h.hosted
    · intro other hOther place hWritten
      cases hCached.symm.trans hOther
      cases place with
      | label => exact hWritten
      | keychain => rfl
      | row => exact hWritten
    · rintro _ ⟨⟩ -
      refine ⟨?_, hLabel⟩
      cases joined with
      | none => exact hCarries
      | some found => exact hCarries
    · intro other hOther place hOwes
      cases hCached.symm.trans hOther
      cases place with
      | label => exact absurd hOwes.2 (by simp [Task.owed])
      | keychain => exact .inl rfl
      | row => exact .inr (.inr ⟨_, rfl, hOwes.1, List.mem_cons_self⟩)
    · intro hNone
      cases hCached.symm.trans hNone
    · exact fun _ _ => .inr ⟨_, rfl, rfl, Option.some_ne_none _⟩

theorem insertRow_advances (hIn : Task.join call (.insertRow ownerKey joined details) ∈ history.pool.running) :
    Advances communityId history (.join call (.insertRow ownerKey joined details))
      ((history.state.mapDb (joinRows call ownerKey details)).view communityId) none := by
  subst hHere
  obtain ⟨hCarries, hDetails⟩ := h.meets _ hIn rfl
  -- The row that is there afterwards, whether it was there before or not.
  have hRow : ∀ mek ∈ (history.state.view call.communityId).cached,
      ((history.state.view call.communityId).row.getD (details.mekGeneration.toInt64, false)).1 =
        mek.generation.toInt64 := by
    intro mek hMek
    cases joined with
    | none => cases hCarries.symm.trans hMek
    | some found =>
      obtain ⟨other, -, hGeneration, hCached, hAgrees⟩ := hCarries
      cases hCached.symm.trans hMek
      cases hFormer : (history.state.view call.communityId).row with
      | none => rw [Option.getD_none, hDetails found rfl, hGeneration]
      | some row => exact hAgrees row hFormer
  rw [view_joinRows, if_pos rfl]
  have hWrites : ∀ mek ∈ (history.state.view call.communityId).cached, ∃ isHosted,
      some ((history.state.view call.communityId).row.getD (details.mekGeneration.toInt64, false)) =
        some (mek.generation.toInt64, isHosted) :=
    fun mek hMek => ⟨_, congrArg some (Prod.ext (hRow mek hMek) rfl)⟩
  refine .of_kept h (hSession.no_login hIn (Option.some_ne_none _)) ⟨rfl, id, ?_, ?_⟩
    (fun _ hNone => nomatch hNone) ?_ ?_ ?_ ?_ ?_
  · intro mek hMek place hWritten
    cases place with
    | label => exact hWritten
    | keychain => exact hWritten
    | row => exact hWrites mek hMek
  · rintro mek hMek - row ⟨⟩
    exact hRow mek hMek
  · intro mek hMek place hOwes
    cases place with
    | label => exact absurd hOwes.2 (by simp [Task.owed])
    | keychain => exact absurd hOwes.2 (by simp [Task.owed])
    | row => exact .inl (hWrites mek hMek)
  · exact fun _ hSettled => hSettled.insertRow _
  · exact fun _ => Option.some_ne_none _
  · exact fun _ _ => .inl (Option.some_ne_none _)
  · intro hHosted
    obtain ⟨generation, hFormer⟩ := h.hosted hHosted
    exact ⟨generation, by rw [hFormer]; rfl⟩

end

/-- A join of another community. -/
theorem join_advances_elsewhere (h : Agreed communityId history) (hOpen : history.state.unlocked = true)
    {call : JoinCall} (hOther : call.communityId ≠ communityId) {stage : JoinStage}
    (hWorking : (Task.join call stage).carried ≠ none) :
    Advances communityId history (.join call stage)
      ((Result.state ((Task.advance crypto (.join call stage)).run history.state)).view communityId)
      (nextTask ((Task.advance crypto (.join call stage)).run history.state)) := by
  have hSkips (rest : JoinStage) : ∀ next ∈ some (Task.join call rest), next.Meets communityId
      (history.state.view communityId) := by
    rintro _ ⟨⟩
    exact fun hHere => absurd hHere hOther
  have hElsewhere {stage : JoinStage} : ∀ mek, (Task.join call stage).carried ≠ some (communityId, mek) := by
    intro mek hCarried
    cases stage with
    | begin => cases hCarried
    | callServer ownerKey => cases hCarried
    | _ => exact hOther (congrArg Prod.fst (Option.some.inj hCarried))
  cases stage with
  | begin => exact absurd rfl hWorking
  | callServer ownerKey => exact absurd rfl hWorking
  | insertCommunity ownerKey joined =>
    have hView : (history.state.insertCommunity (joinedCommunity crypto call joined)).view communityId =
        history.state.view communityId := (view_insertCommunity _ _ _).trans (if_neg (Ne.symm hOther))
    change Advances communityId history _ ((history.state.insertCommunity _).view communityId) _
    rw [hView]
    exact .of_idle h hElsewhere (hSkips _)
  | readBack ownerKey joined => exact .of_idle h hElsewhere (hSkips _)
  | storeCached ownerKey joined details =>
    change Advances communityId history _ (((history.state.mekCache.lookup call.communityId).elim history.state _ :
      ClientState).view communityId) _
    cases history.state.mekCache.lookup call.communityId with
    | none => exact .of_idle h hElsewhere (hSkips _)
    | some mek =>
      rw [Option.elim_some, view_storeKey _ _ _ hOpen, if_neg (Ne.symm hOther)]
      exact .of_idle h hElsewhere (hSkips _)
  | insertRow ownerKey joined details =>
    change Advances communityId history _ ((history.state.mapDb _).view communityId) none
    rw [view_joinRows, if_neg (Ne.symm hOther)]
    exact .of_idle h hElsewhere fun _ hNone => nomatch hNone

theorem join_advances (h : Agreed communityId history) (hSession : InSession history) {call : JoinCall}
    {stage : JoinStage} (hIn : Task.join call stage ∈ history.pool.running)
    (hOrderly : (Task.join call stage).Orderly history) :
    Advances communityId history (.join call stage)
      ((Result.state ((Task.advance crypto (.join call stage)).run history.state)).view communityId)
      (nextTask ((Task.advance crypto (.join call stage)).run history.state)) := by
  by_cases hWorking : (Task.join call stage).carried = none
  · cases stage with
    | begin =>
      have hRun : (Task.advance crypto (.join call .begin)).run history.state = _ :=
        begin_run (fun ownerKey => Task.join call (.callServer ownerKey)) history.state
      rw [hRun]
      cases history.state.identity with
      | none => exact .of_idle h nofun fun _ hNone => nomatch hNone
      | some ownerKey =>
        refine .of_idle h nofun ?_
        rintro _ ⟨⟩
        exact fun _ => trivial
    | callServer ownerKey => exact callServer_advances h hOrderly
    | _ => cases hWorking
  · have hStarted : (Task.join call stage).Started := by
      cases stage with
      | begin => exact hWorking rfl
      | _ => trivial
    have hOpen := hSession.unlocked (hSession.started _ hIn hStarted)
    by_cases hHere : call.communityId = communityId
    · cases stage with
      | begin => exact absurd rfl hWorking
      | callServer ownerKey => exact absurd rfl hWorking
      | insertCommunity ownerKey joined => exact insertCommunity_advances h hSession hHere hIn
      | readBack ownerKey joined => exact readBack_advances h hHere hIn
      | storeCached ownerKey joined details => exact storeCached_advances h hSession hHere hOpen hIn
      | insertRow ownerKey joined details => exact insertRow_advances h hSession hHere hIn
    · exact join_advances_elsewhere h hOpen hHere hWorking

/-! ## Sections of sends -/

theorem view_of_db {state : ClientState} {db : Database} (hRows : db.communities = state.db.communities) :
    ({ state with db := db } : ClientState).view communityId = state.view communityId := by
  simp only [ClientState.view, ClientState.label?, ClientState.community?, ClientState.row?, Database.community?, hRows]

theorem insertMessage_communities {db after : Database} {row : MessageRow} (h : db.insertMessage row = some after) :
    after.communities = db.communities := by
  unfold Database.insertMessage at h
  split at h
  · cases h
    rfl
  · cases h

/-- A send does not change what is held about a key. -/
theorem send_view (call : SendCall) (stage : SendStage) (state : ClientState) :
    (Result.state ((sendSection crypto call stage).run state)).view communityId = state.view communityId := by
  cases stage with
  | begin =>
    have hRun : (sendSection crypto call .begin).run state = _ :=
      begin_run (fun ownerKey => Task.send call (.findChannel ownerKey)) state
    rw [hRun]
    cases state.identity <;> rfl
  | findChannel ownerKey =>
    have hRun : (sendSection crypto call (.findChannel ownerKey)).run state = _ := run_orThrow _ _ _ state
    rw [hRun]
    cases state.communities.find? fun community => community.channels.contains call.channelId <;> rfl
  | readSender ownerKey destination => rfl
  | encrypt senderKey destination =>
    have hRun : (sendSection crypto call (.encrypt senderKey destination)).run state = _ := run_orThrow _ _ _ state
    rw [hRun]
    cases state.mekCache.lookup destination.communityId <;> rfl
  | store senderKey serverRouteBlob message =>
    have hRun : (sendSection crypto call (.store senderKey serverRouteBlob message)).run state = _ :=
      run_orThrow _ _ _ state
    rw [hRun]
    generalize hInsert : state.db.insertMessage _ = inserted
    cases inserted with
    | none => rfl
    | some db => exact view_of_db (insertMessage_communities hInsert)
  | deliver serverRouteBlob message =>
    cases serverRouteBlob with
    | none => rfl
    | some blob =>
      unfold sendSection
      cases call.delivery with
      | detached => rfl
      | unroutable => rfl
      | failed => exact view_updateCommunity state message.communityId communityId (fun _ => rfl) (fun _ => rfl) (fun _ => rfl)
      | answered reply =>
        rcases reply with _ | (error | response) <;> rfl
  | queue message =>
    change ((if state.identity.isSome = true then _ else _ : ClientState).view communityId) = _
    split
    · exact view_of_db rfl
    · rfl

end

end Rekindle.Community
