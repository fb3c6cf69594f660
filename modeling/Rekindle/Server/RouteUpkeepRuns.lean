import Rekindle.Server.RouteUpkeep

/-! # The published route is the one that is held -/
namespace Rekindle.Server.Routes
set_option autoImplicit false
open Runs Holders

variable {Blob : Type}

namespace RouteServer
variable {recordOf : String → String} {state before after : RouteServer Blob} {handle : TaskId}

/-! ### One section at a time -/

section
variable {loop : Loop} {stage : Stage Blob} {entry : KeepaliveData Blob} {rest : List (KeepaliveData Blob)}

theorem knows_of_keys {entries : List (KeepaliveData Blob)}
    (hKeys : ∀ data ∈ entries, data.dhtKey = recordOf data.communityId) {task : Task Blob}
    (hTask : loop.next entries = some task) : Knows recordOf state task := by
  cases entries with
  | nil =>
    cases loop with
    | retry roundsLeft =>
      cases roundsLeft with
      | zero => cases hTask
      | succ roundsLeft =>
        cases hTask
        trivial
    | _ => cases hTask
  | cons data rest =>
    cases hTask
    refine ⟨hKeys, fun hBegun => ?_, fun _ => rfl⟩
    cases loop <;> cases hBegun

theorem knows_next (h : Knows recordOf state (.refreshing loop stage entry rest)) {task : Task Blob}
    (hTask : loop.next rest = some task) : Knows recordOf state task :=
  knows_of_keys (fun data hData => h.1 data (List.mem_cons_of_mem entry hData)) hTask

theorem works_refreshing {other : String} {new : Stage Blob}
    (h : (Task.refreshing loop new entry rest).works other = true) : other = entry.communityId := by
  simp only [Task.works, Bool.and_eq_true, beq_iff_eq] at h
  exact h.2.symm

theorem works_entry (hBegun : stage.begun = true) :
    (Task.refreshing loop stage entry rest).works entry.communityId = true := by
  simp [Task.works, hBegun]

/-- As `Kept.setTask`, for a task that is there. -/
theorem Kept.moves (h : Kept recordOf state) {task : Task Blob} {next : Option (Task Blob)}
    (hTask : state.tasks handle = some task) (hQuiet : ∀ communityId, task.publishes communityId = false)
    (hOwns : ∀ new communityId, next = some new → new.works communityId = true → Owns state handle communityId)
    (hKnows : ∀ new, next = some new → Knows recordOf state new)
    (hCarried : next.bind Task.carried = task.carried) : Kept recordOf (state.setTask handle next) := by
  refine h.setTask (h.live hTask) ?_ hOwns hKnows ?_
  · intro old communityId hOld
    cases hTask.symm.trans hOld
    exact hQuiet communityId
  · rw [hTask]
    exact hCarried

/-- The loop turns to the next community, without a route in hand. -/
theorem Kept.turns (h : Kept recordOf state)
    (hTask : state.tasks handle = some (.refreshing loop stage entry rest))
    (hCarried : (Task.refreshing loop stage entry rest).carried = none)
    (hQuiet : ∀ communityId, (Task.refreshing loop stage entry rest).publishes communityId = false) :
    Kept recordOf (state.setTask handle (loop.next rest)) := by
  refine h.moves hTask hQuiet ?_ (fun task hNext => knows_next (h.knows handle _ hTask) hNext)
    ((carried_next loop rest).trans hCarried.symm)
  intro task communityId hNext hWorks
  rw [Task.works_next loop rest hNext communityId] at hWorks
  cases hWorks

/-- The loop goes to another stage of the same community. -/
theorem Kept.goes (h : Kept recordOf state) {new : Stage Blob} (hBegun : new.begun = true)
    (hTask : state.tasks handle = some (.refreshing loop stage entry rest))
    (hQuiet : ∀ communityId, (Task.refreshing loop stage entry rest).publishes communityId = false)
    (hOwns : Owns state handle entry.communityId) {community : HostedRoute Blob}
    (hHosted : state.hosted entry.communityId = some community) (hFits : StageFits state loop entry community new)
    (hCarried : (Task.refreshing loop new entry rest).carried = (Task.refreshing loop stage entry rest).carried) :
    Kept recordOf (state.setTask handle (some (.refreshing loop new entry rest))) := by
  refine h.moves hTask hQuiet ?_ ?_ hCarried
  · intro task communityId hNew hWorks
    cases hNew
    rw [works_refreshing hWorks]
    exact hOwns
  · intro task hNew
    cases hNew
    refine ⟨(h.knows handle _ hTask).1, fun _ => ⟨community, hHosted, hFits⟩, fun hFirst => ?_⟩
    rw [hBegun] at hFirst
    cases hFirst

/-- The loop changes the community in memory, and goes on. -/
theorem Kept.changes (h : Kept recordOf state) {community changed : HostedRoute Blob} {next : Option (Task Blob)}
    (hTask : state.tasks handle = some (.refreshing loop stage entry rest))
    (hOwns : Owns state handle entry.communityId) (hHosted : state.hosted entry.communityId = some community)
    (hNext : ∀ new other, next = some new → new.works other = true → other = entry.communityId)
    (hKnows : ∀ new, next = some new →
      Knows recordOf (state.setHosted entry.communityId (some changed)) new)
    (hAccounted : ((state.setHosted entry.communityId (some changed)).setTask handle next).stock.Accounted)
    (hSound : ((state.setHosted entry.communityId (some changed)).setTask handle next).stock.Sound)
    (hKey : changed.dhtRecordKey = community.dhtRecordKey)
    (hBlob : ∀ routeId, changed.routeId = some routeId → changed.routeBlob = state.network.allocated[routeId]?)
    (hFresh : ∀ blob, changed.routeBlob = some blob → state.published (recordOf entry.communityId) = some blob ∨
      ∃ new, next = some new ∧ new.publishes entry.communityId = true) :
    Kept recordOf ((state.setHosted entry.communityId (some changed)).setTask handle next) := by
  have hFits := h.communities entry.communityId community hHosted
  refine h.update hTask hOwns (fun other hWorks => works_refreshing hWorks) hNext hKnows hAccounted hSound
    ⟨hKey.trans hFits.key, hBlob, fun blob hChanged => (hFresh blob hChanged).imp_right ?_⟩
  rintro ⟨new, hNew, hPublishes⟩
  exact ⟨handle, new, (Function.update_self ..).trans hNew, hPublishes⟩

/-- Nobody else is going to write the route of a community that the task owns. -/
theorem Kept.published (h : Kept recordOf state) {task : Task Blob} (hTask : state.tasks handle = some task)
    (hQuiet : ∀ communityId, task.publishes communityId = false) {communityId : String}
    (hOwns : Owns state handle communityId) {community : HostedRoute Blob}
    (hHosted : state.hosted communityId = some community) {blob : Blob} (hBlob : community.routeBlob = some blob) :
    state.published (recordOf communityId) = some blob := by
  have hFits := h.communities communityId community hHosted
  rcases hFits.fresh blob hBlob with hPublished | ⟨other, rival, hRival, hWill⟩
  · exact hPublished
  · by_cases hSame : other = handle
    · subst hSame
      cases hTask.symm.trans hRival
      rw [hQuiet] at hWill
      cases hWill
    · have hWorks := Task.works_of_publishes hWill
      rw [hOwns other rival hSame hRival] at hWorks
      cases hWorks

theorem Kept.empties (h : Kept recordOf state) {new : Stage Blob}
    (hTask : state.tasks handle = some (.refreshing loop stage entry rest))
    (hQuiet : ∀ communityId, (Task.refreshing loop stage entry rest).publishes communityId = false)
    (hOwns : Owns state handle entry.communityId) {community : HostedRoute Blob}
    (hHosted : state.hosted entry.communityId = some community)
    (hCollected : loop = .keepalive → entry.routeBlob = community.routeBlob)
    (hNew : new = .allocating ∨ ∃ routeId, new = .releasing routeId)
    (hAccounted : ((state.setHosted entry.communityId (some { community with routeId := none })).setTask handle
      (some (.refreshing loop new entry rest))).stock.Accounted)
    (hSound : ((state.setHosted entry.communityId (some { community with routeId := none })).setTask handle
      (some (.refreshing loop new entry rest))).stock.Sound) :
    Kept recordOf ((state.setHosted entry.communityId (some { community with routeId := none })).setTask handle
      (some (.refreshing loop new entry rest))) := by
  refine h.changes hTask hOwns hHosted ?_ ?_ hAccounted hSound rfl (fun _ hRoute => nomatch hRoute) fun blob hBlob =>
    .inl (h.published hTask hQuiet hOwns hHosted hBlob)
  · intro task other hNext hWorks
    cases hNext
    exact works_refreshing hWorks
  · intro task hNext
    cases hNext
    obtain rfl | ⟨routeId, rfl⟩ := hNew <;>
      exact ⟨(h.knows handle _ hTask).1,
        fun _ => ⟨_, Function.update_self .., (fun _ hRoute => (nomatch hRoute)), hCollected⟩,
        fun hFirst => (nomatch hFirst)⟩

theorem modify_of_some {communityId : String} {community : HostedRoute Blob}
    (h : state.hosted communityId = some community) (change : HostedRoute Blob → HostedRoute Blob) :
    state.modify communityId change = state.setHosted communityId (some (change community)) := by
  rw [modify, h]
  rfl

theorem spare_task (hTask : state.tasks handle = some (.refreshing loop stage entry rest))
    (hCarried : (Task.refreshing loop stage entry rest).carried = none) : state.stock.Spare (.task handle) :=
  Stock.spare_of_none ((kept_task hTask).trans hCarried)

theorem spare_community {communityId : String} {community : HostedRoute Blob}
    (hHosted : state.hosted communityId = some community) (hSpent : Spent state community) :
    state.stock.Spare (.community communityId) :=
  fun routeId hRoute => hSpent routeId ((kept_community hHosted).symm.trans hRoute)

theorem Kept.clears (h : Kept recordOf state)
    (hTask : state.tasks handle = some (.refreshing loop .clearing entry rest)) (hLoop : loop ≠ .keepalive)
    (hFree : state.free entry.communityId = true) {community : HostedRoute Blob}
    (hHosted : state.hosted entry.communityId = some community) (hSpent : Spent state community) (ok : Bool) :
    Kept recordOf (state.refresh handle loop .clearing entry rest ok) := by
  have hSound := sound_refresh h.sound hTask ok
  dsimp only [refresh] at hSound ⊢
  rw [modify_of_some hHosted] at hSound ⊢
  refine h.empties hTask (fun _ => rfl) (h.owns_of_free hFree) hHosted (fun hKeepalive => absurd hKeepalive hLoop)
    (.inl rfl) ?_ hSound
  rw [stock_setTask_of_none rfl, stock_setHosted_of_none rfl]
  refine (h.accounted.drop (spare_community hHosted hSpent)).drop ?_
  intro routeId hRoute
  exact spare_task hTask rfl routeId (Stock.kept_drop_eq_some_iff.mp hRoute).2

theorem Kept.takes (h : Kept recordOf state)
    (hTask : state.tasks handle = some (.refreshing loop .taking entry rest)) (ok : Bool) :
    Kept recordOf (state.refresh handle loop .taking entry rest ok) := by
  have hSound := sound_refresh h.sound hTask ok
  obtain ⟨community, hHosted, hCollected⟩ := (h.knows handle _ hTask).2.1 rfl
  have hOwns : Owns state handle entry.communityId := h.owns_of_works hTask (works_entry rfl)
  dsimp only [refresh] at hSound ⊢
  rw [modify_of_some hHosted] at hSound ⊢
  cases hRoute : state.routeOf entry.communityId with
  | none =>
    rw [hRoute] at hSound
    refine h.empties hTask (fun _ => rfl) hOwns hHosted hCollected (.inl rfl) ?_ hSound
    have hNone : state.stock.kept (.community entry.communityId) = none := hRoute
    rw [stock_setTask_of_none rfl, stock_setHosted_of_none rfl, Stock.drop_eq_self hNone]
    exact h.accounted.drop (spare_task hTask rfl)
  | some oldRouteId =>
    rw [hRoute] at hSound
    refine h.empties hTask (fun _ => rfl) hOwns hHosted hCollected (.inr ⟨oldRouteId, rfl⟩) ?_ hSound
    rw [@stock_take _ state handle entry.communityId (.refreshing loop (.releasing oldRouteId) entry rest) _ rfl
      hRoute.symm]
    exact h.accounted.transfer (spare_task hTask rfl) (community_ne_task _ _)

theorem Kept.stores (h : Kept recordOf state) {route : RouteBlob Blob}
    (hTask : state.tasks handle = some (.refreshing loop (.allocated route) entry rest)) (ok : Bool) :
    Kept recordOf (state.refresh handle loop (.allocated route) entry rest ok) := by
  have hSound := sound_refresh h.sound hTask ok
  obtain ⟨community, hHosted, hSpent, hRoute⟩ := (h.knows handle _ hTask).2.1 rfl
  have hOwns : Owns state handle entry.communityId := h.owns_of_works hTask (works_entry rfl)
  dsimp only [refresh] at hSound ⊢
  rw [modify_of_some hHosted] at hSound ⊢
  refine h.changes hTask hOwns hHosted ?_ ?_ ?_ hSound rfl ?_ ?_
  · intro task other hNext hWorks
    cases hNext
    exact works_refreshing hWorks
  · intro task hNext
    cases hNext
    exact ⟨(h.knows handle _ hTask).1, fun _ => ⟨_, Function.update_self .., rfl⟩, fun hFirst => (nomatch hFirst)⟩
  · rw [stock_give (by rw [hTask]; rfl) rfl]
    exact h.accounted.transfer (spare_community hHosted hSpent) (community_ne_task _ _).symm
  · intro routeId hStored
    cases hStored
    exact hRoute.symm
  · intro blob hBlob
    exact .inr ⟨_, rfl, by simp [Task.publishes]⟩

/-- A task passes its route to `release_private_route`. -/
theorem Kept.givesBack (h : Kept recordOf state) {task : Task Blob} {next : Option (Task Blob)} {routeId : Nat}
    (hTask : state.tasks handle = some task) (hCarried : task.carried = some routeId)
    (hQuiet : ∀ communityId, task.publishes communityId = false) (hNext : next.bind Task.carried = none)
    (hWorks : ∀ new other, next = some new → new.works other = true → task.works other = true)
    (hKnows : ∀ new, next = some new → Knows recordOf state new) :
    Kept recordOf ((state.releasePrivateRoute routeId).setTask handle next) := by
  have hKept : state.stock.kept (.task handle) = some routeId := (kept_task hTask).trans hCarried
  have hElsewhere : Elsewhere recordOf (task.works · = true) state (state.releasePrivateRoute routeId) :=
    ⟨fun _ _ => rfl, fun _ _ => rfl, fun _ _ hBlob => hBlob, fun _ hDead => hDead⟩
  refine h.next (task.works · = true) rfl (unused_update h.unused (h.live hTask) _)
    (hElsewhere.setTask next) ?_ ?_ hWorks ?_ ?_ ?_ ?_
  · intro old other hOld hPublishes
    cases hTask.symm.trans hOld
    exact Task.works_of_publishes hPublishes
  · intro other rival communityId hOther hRival hTouched
    exact h.owns_of_works hTask hTouched other rival hOther hRival
  · intro new hNew
    exact hKnows new hNew
  · rw [stock_releasePrivateRoute hNext]
    exact h.sound.release hKept
  · rw [stock_releasePrivateRoute hNext]
    exact h.accounted.release hKept
  · intro communityId found hTouched hFound
    have hOld := h.communities communityId found hFound
    exact ⟨hOld.key, hOld.blob, fun blob hBlob =>
      .inl (h.published hTask hQuiet (h.owns_of_works hTask hTouched) hFound hBlob)⟩

theorem Kept.releases (h : Kept recordOf state) {routeId : Nat}
    (hTask : state.tasks handle = some (.refreshing loop (.releasing routeId) entry rest)) (ok : Bool) :
    Kept recordOf (state.refresh handle loop (.releasing routeId) entry rest ok) := by
  obtain ⟨community, hHosted, hFits⟩ := (h.knows handle _ hTask).2.1 rfl
  refine h.givesBack hTask rfl (fun _ => rfl) rfl ?_ ?_
  · intro new other hNew hWorks
    cases hNew
    exact hWorks
  · intro new hNew
    cases hNew
    exact ⟨(h.knows handle _ hTask).1, fun _ => ⟨community, hHosted, hFits⟩, fun hFirst => (nomatch hFirst)⟩

/-- A task writes to the record of the community that it is at work on. -/
theorem Kept.writes (h : Kept recordOf state) (hRecords : Function.Injective recordOf) {task : Task Blob}
    {next : Option (Task Blob)} {communityId : String} {value : Option Blob} {ok : Bool}
    (hTask : state.tasks handle = some task) (hWorks : task.works communityId = true)
    (hOk : value ≠ none → ok = true)
    (hValue : ∀ community, state.hosted communityId = some community → community.routeBlob = value)
    (hCarried : next.bind Task.carried = task.carried)
    (hNext : ∀ new other, next = some new → new.works other = true → other = communityId)
    (hKnows : ∀ new, next = some new → Knows recordOf (state.publish (recordOf communityId) value ok) new) :
    Kept recordOf ((state.publish (recordOf communityId) value ok).setTask handle next) := by
  have hElsewhere : Elsewhere recordOf (· = communityId) state (state.publish (recordOf communityId) value ok) :=
    elsewhere_publish hRecords communityId value ok
  have hStock : ((state.publish (recordOf communityId) value ok).setTask handle next).stock = state.stock := by
    rw [stock_setTask, stock_publish, ← stock_setTask, stock_setTask_of_same (by rw [hTask]; exact hCarried)]
  have hSame : (state.publish (recordOf communityId) value ok).hosted = state.hosted ∧
      (state.publish (recordOf communityId) value ok).tasks = state.tasks ∧
      (state.publish (recordOf communityId) value ok).requests = state.requests ∧
      (state.publish (recordOf communityId) value ok).network = state.network := by
    cases value <;> cases ok <;> exact ⟨rfl, rfl, rfl, rfl⟩
  obtain ⟨hHosted, hTasks, hRequests, hNetwork⟩ := hSame
  have hUpdated : ((state.publish (recordOf communityId) value ok).setTask handle next).tasks =
      Function.update state.tasks handle next := by
    rw [← hTasks]
    rfl
  refine h.next (· = communityId) hUpdated ?_ (hElsewhere.setTask next) ?_ ?_ hNext hKnows (hStock.symm ▸ h.sound)
    (hStock.symm ▸ h.accounted) ?_
  · intro number hNumber
    rw [hUpdated]
    exact unused_update h.unused (h.live hTask) next number (hRequests ▸ hNumber)
  · intro old other hOld hPublishes
    cases hTask.symm.trans hOld
    exact works_unique hWorks (Task.works_of_publishes hPublishes)
  · rintro other rival _ hOther hRival rfl
    exact h.owns_of_works hTask hWorks other rival hOther hRival
  · intro other found hOther hFound
    rw [hOther] at hFound ⊢
    have hBefore : state.hosted communityId = some found := (congrFun hHosted communityId).symm.trans hFound
    have hOld := h.communities communityId found hBefore
    refine ⟨hOld.key, fun routeId hRoute => (hOld.blob routeId hRoute).trans ?_, fun blob hBlob => .inl ?_⟩
    · exact congrArg (fun network : Network Blob => network.allocated[routeId]?) hNetwork.symm
    · obtain rfl := hBlob.symm.trans (hValue found hBefore)
      cases hOk (Option.some_ne_none blob)
      exact Function.update_self ..

theorem Kept.publishes (h : Kept recordOf state) (hRecords : Function.Injective recordOf) {value : Option Blob}
    (hTask : state.tasks handle = some (.refreshing loop (.publishing value) entry rest)) {ok : Bool}
    (hOk : value ≠ none → ok = true) :
    Kept recordOf (state.refresh handle loop (.publishing value) entry rest ok) := by
  obtain ⟨hKeys, hFits, -⟩ := h.knows handle _ hTask
  obtain ⟨community, hHosted, hValue⟩ := hFits rfl
  have hKey : entry.dhtKey = recordOf entry.communityId := hKeys entry List.mem_cons_self
  dsimp only [refresh]
  rw [hKey]
  refine h.writes hRecords hTask (works_entry rfl) hOk ?_ (carried_next loop rest) ?_ ?_
  · intro found hFound
    cases hHosted.symm.trans hFound
    exact hValue
  · intro new other hNext hWorks
    rw [Task.works_next loop rest hNext other] at hWorks
    cases hWorks
  · intro new hNext
    have hKnows := knows_next (h.knows handle _ hTask) hNext
    exact hKnows.elsewhere (elsewhere_publish hRecords entry.communityId value ok) fun communityId _ =>
      Task.works_next loop rest hNext communityId

theorem Kept.refresh (h : Kept recordOf state) (hRecords : Function.Injective recordOf)
    (hTask : state.tasks handle = some (.refreshing loop stage entry rest)) {ok : Bool}
    (hMeets : state.TurnMeets ok (.refreshing loop stage entry rest)) :
    Kept recordOf (state.refresh handle loop stage entry rest ok) := by
  have hFirst := (h.knows handle _ hTask).2.2
  cases stage with
  | opening =>
    cases ok with
    | false => exact h.turns hTask rfl fun _ => rfl
    | true =>
      obtain ⟨hFree, community, hHosted, hBlob⟩ := hMeets rfl
      exact h.goes rfl hTask (fun _ => rfl) (h.owns_of_free hFree) hHosted (fun _ => hBlob.symm) rfl
  | clearing =>
    obtain ⟨hFree, community, hHosted, hSpent⟩ := hMeets
    refine h.clears hTask ?_ hFree hHosted hSpent ok
    rintro rfl
    cases hFirst rfl
  | starting =>
    obtain ⟨hFree, community, hHosted, hNone⟩ := hMeets
    refine h.goes rfl hTask (fun _ => rfl) (h.owns_of_free hFree) hHosted ⟨?_, ?_⟩ rfl
    · intro routeId hRoute
      rw [hNone] at hRoute
      cases hRoute
    · rintro rfl
      cases hFirst rfl
  | taking => exact h.takes hTask ok
  | releasing routeId => exact h.releases hTask ok
  | allocating => exact h
  | allocated route => exact h.stores hTask ok
  | publishing value => exact h.publishes hRecords hTask hMeets

end

/-- Veilid makes a route for a task. -/
theorem Kept.makes (h : Kept recordOf state) {task next : Task Blob} {blob : Blob}
    (hTask : state.tasks handle = some task) (hCarried : task.carried = none)
    (hNext : next.carried = some state.network.allocated.length)
    (hQuiet : ∀ communityId, task.publishes communityId = false)
    (hWorks : ∀ other, next.works other = true → task.works other = true)
    (hKnows : Knows recordOf (state.newPrivateRoute blob) next) :
    Kept recordOf ((state.newPrivateRoute blob).setTask handle (some next)) := by
  have hGrows : ∀ (routeId : Nat) (old : Blob), state.network.allocated[routeId]? = some old →
      (state.network.allocated ++ [blob])[routeId]? = some old := by
    intro routeId old hOld
    obtain ⟨hLength, -⟩ := List.getElem?_eq_some_iff.mp hOld
    exact (List.getElem?_append_left hLength).trans hOld
  have hElsewhere : Elsewhere recordOf (task.works · = true) state (state.newPrivateRoute blob) :=
    ⟨fun _ _ => rfl, fun _ _ => rfl, hGrows, fun _ hDead => hDead⟩
  have hStock : ((state.newPrivateRoute blob).setTask handle (some next)).stock = state.stock.make (.task handle) :=
    stock_newPrivateRoute hNext
  have hEmpty : state.stock.kept (.task handle) = none := (kept_task hTask).trans hCarried
  refine h.next (task.works · = true) rfl (unused_update h.unused (h.live hTask) _)
    (hElsewhere.setTask (some next)) ?_ ?_ ?_ ?_ (hStock.symm ▸ h.sound.make _)
    (hStock.symm ▸ h.accounted.make (Stock.spare_of_none hEmpty)) ?_
  · intro old other hOld hPublishes
    cases hTask.symm.trans hOld
    exact Task.works_of_publishes hPublishes
  · intro other rival communityId hOther hRival hTouched
    exact h.owns_of_works hTask hTouched other rival hOther hRival
  · intro new other hNew
    cases hNew
    exact hWorks other
  · intro new hNew
    cases hNew
    exact hKnows
  · intro communityId found hTouched hFound
    have hOld := h.communities communityId found hFound
    refine ⟨hOld.key, fun routeId hRoute => ?_, fun old hBlob =>
      .inl (h.published hTask hQuiet (h.owns_of_works hTask hTouched) hFound hBlob)⟩
    have hKept : state.stock.kept (.community communityId) = some routeId := (kept_community hFound).trans hRoute
    have hMade : routeId < state.network.allocated.length := (h.sound.keptMade _ routeId hKept).1
    have hGot := List.getElem?_eq_getElem hMade
    exact ((hOld.blob routeId hRoute).trans hGot).trans (hGrows routeId _ hGot).symm

theorem Kept.allocates (h : Kept recordOf state) (blob : Blob) : Kept recordOf (state.allocates handle blob) := by
  have hNew : (state.newPrivateRoute blob).network.allocated[state.network.allocated.length]? = some blob :=
    List.getElem?_concat_length
  unfold RouteServer.allocates
  dsimp only
  split
  case h_1 loop entry rest hTask =>
    obtain ⟨hKeys, hFits, -⟩ := h.knows handle _ hTask
    obtain ⟨community, hHosted, hSpent, -⟩ := hFits rfl
    exact h.makes hTask rfl rfl (fun _ => rfl) (fun _ hWorks => hWorks)
      ⟨hKeys, fun _ => ⟨community, hHosted, hSpent, hNew⟩, fun hFirst => (nomatch hFirst)⟩
  case h_2 communityId dhtRecordKey dhtOpened hTask =>
    obtain ⟨hKey, hNone, hOpened⟩ := h.knows handle _ hTask
    obtain rfl : dhtOpened = true := hOpened
    exact h.makes hTask rfl rfl (fun _ => rfl) (fun _ hWorks => hWorks) ⟨hKey, hNone, hNew⟩
  case h_3 => exact h

theorem Kept.refuses (h : Kept recordOf state) : Kept recordOf (state.refuses handle) := by
  have hSound : (state.refuses handle).stock.Sound := sound_refuses h.sound
  unfold RouteServer.refuses at hSound ⊢
  split at hSound
  case h_1 entry rest hTask =>
    obtain ⟨community, hHosted, -, hCollected⟩ := (h.knows handle _ hTask).2.1 rfl
    exact h.goes rfl hTask (fun _ => rfl) (h.owns_of_works hTask (works_entry rfl)) hHosted
      (hCollected rfl).symm rfl
  case h_2 entry rest hTask =>
    obtain ⟨community, hHosted, hSpent, -⟩ := (h.knows handle _ hTask).2.1 rfl
    rw [modify_of_some hHosted] at hSound ⊢
    refine h.changes hTask (h.owns_of_works hTask (works_entry rfl)) hHosted ?_ ?_ ?_ hSound rfl
      (fun _ hRoute => nomatch hRoute) (fun _ hBlob => nomatch hBlob)
    · intro new other hNew hWorks
      rw [Task.works_next _ rest hNew other] at hWorks
      cases hWorks
    · intro new hNew
      have hKnows := knows_next (h.knows handle _ hTask) hNew
      exact hKnows.elsewhere (elsewhere_setHosted entry.communityId _) fun communityId _ =>
        Task.works_next _ rest hNew communityId
    · rw [stock_setTask_of_none (carried_next ..), stock_setHosted_of_none rfl]
      refine (h.accounted.drop (spare_community hHosted hSpent)).drop ?_
      intro routeId hRoute
      exact spare_task hTask rfl routeId (Stock.kept_drop_eq_some_iff.mp hRoute).2
  case h_3 hTask => exact h.turns hTask rfl fun _ => rfl
  case h_4 communityId dhtRecordKey dhtOpened hTask =>
    refine h.moves hTask (fun _ => rfl) ?_ ?_ rfl
    · intro task other hNew hWorks
      cases hNew
      exact h.owns_of_works hTask hWorks
    · intro task hNew
      cases hNew
      obtain ⟨hKey, hNone, -⟩ := h.knows handle _ hTask
      exact ⟨hKey, hNone, trivial⟩
  case h_5 => exact h

theorem Kept.hostSection (h : Kept recordOf state) (hRecords : Function.Injective recordOf)
    {communityId dhtRecordKey : String} {stage : HostStage Blob}
    (hTask : state.tasks handle = some (.hosting communityId dhtRecordKey stage)) {ok : Bool}
    (hMeets : state.TurnMeets ok (.hosting communityId dhtRecordKey stage)) :
    Kept recordOf (state.hostSection handle communityId dhtRecordKey stage ok) := by
  have hSound := sound_hostSection h.sound hTask ok
  obtain ⟨hKey, hNone, hFits⟩ := h.knows handle _ hTask
  have hOwns : Owns state handle communityId := h.owns_of_works hTask (by simp [Task.works])
  have hOnly : ∀ (new : HostStage Blob) other,
      (Task.hosting communityId dhtRecordKey new).works other = true → other = communityId := by
    intro new other hWorks
    simp only [Task.works, beq_iff_eq] at hWorks
    exact hWorks.symm
  cases stage with
  | opening =>
    refine h.moves hTask (fun _ => rfl) ?_ ?_ rfl
    · intro task other hNew hWorks
      cases hNew
      exact h.owns_of_works hTask hWorks
    · intro task hNew
      cases hNew
      exact ⟨hKey, hNone, hMeets⟩
  | allocating dhtOpened => exact h
  | publishing route =>
    obtain rfl : ok = true := hMeets
    subst hKey
    refine h.writes hRecords hTask (by simp [Task.works]) (fun _ => rfl) ?_ rfl ?_ ?_
    · intro found hFound
      cases hNone.symm.trans hFound
    · intro new other hNew hWorks
      cases hNew
      exact hOnly _ other hWorks
    · intro new hNew
      cases hNew
      exact ⟨rfl, hNone, hFits, Function.update_self ..⟩
  | inserting route =>
    subst hKey
    have hEmpty : state.stock.kept (.community communityId) = none := by
      change (state.hosted communityId).bind HostedRoute.routeId = none
      rw [hNone, Option.bind_none]
    dsimp only [RouteServer.hostSection] at hSound ⊢
    refine h.update hTask hOwns (hOnly _) ?_ ?_ ?_ hSound ⟨rfl, ?_, ?_⟩
    · intro new other hNew
      cases hNew
    · intro new hNew
      cases hNew
    · rw [stock_give (by rw [hTask]; rfl) rfl]
      exact h.accounted.transfer (Stock.spare_of_none hEmpty) (community_ne_task _ _).symm
    · intro routeId hRoute
      cases route with
      | none => cases hRoute
      | some route =>
        cases hRoute
        exact hFits.1.symm
    · intro blob hBlob
      cases route with
      | none => cases hBlob
      | some route =>
        cases hBlob
        exact .inl hFits.2

theorem Kept.turn (h : Kept recordOf state) (hRecords : Function.Injective recordOf) {ok : Bool}
    (hMeets : ∀ task ∈ state.tasks handle, state.TurnMeets ok task) : Kept recordOf (state.turn handle ok) := by
  unfold RouteServer.turn
  split
  case h_1 hTask => exact h.refresh hRecords hTask (hMeets _ hTask)
  case h_2 hTask => exact h.hostSection hRecords hTask (hMeets _ hTask)
  case h_3 hTask =>
    exact h.givesBack hTask rfl (fun _ => rfl) rfl (fun _ _ hNew => absurd hNew.symm (Option.some_ne_none _))
      (fun _ hNew => absurd hNew.symm (Option.some_ne_none _))
  all_goals exact h

/-! ### Starts -/

theorem Kept.collects (h : Kept recordOf state) (loop : Loop) (order : List String)
    (keep : HostedRoute Blob → Bool) {task : Task Blob} (hTask : loop.next (state.collect order keep) = some task) :
    Knows recordOf state task := by
  have hKeys : ∀ data ∈ state.collect order keep, data.dhtKey = recordOf data.communityId := by
    intro data hData
    obtain ⟨communityId, -, hCollected⟩ := List.mem_filterMap.mp hData
    obtain ⟨community, hHosted, hKeep⟩ := Option.bind_eq_some_iff.mp hCollected
    split at hKeep
    · cases hKeep
      exact (h.communities communityId community hHosted).key
    · cases hKeep
  exact knows_of_keys hKeys hTask

/-- A loop that has nothing to do begins with what it collects. -/
theorem Kept.begins (h : Kept recordOf state) (loop : Loop) (order : List String) (keep : HostedRoute Blob → Bool)
    (hHandle : ∀ number, handle ≠ .request number)
    (hIdle : ∀ task, state.tasks handle = some task →
      task.carried = none ∧ ∀ communityId, task.publishes communityId = false) :
    Kept recordOf (state.setTask handle (loop.next (state.collect order keep))) := by
  refine h.setTask (fun number _ => hHandle number) (fun task communityId hTask => (hIdle task hTask).2 communityId)
    ?_ (fun task hTask => h.collects loop order keep hTask) ?_
  · intro task communityId hTask hWorks
    rw [Task.works_next loop _ hTask communityId] at hWorks
    cases hWorks
  · rw [carried_next]
    cases hTask : state.tasks handle with
    | none => rfl
    | some task => exact (hIdle task hTask).1.symm

theorem Kept.wake (h : Kept recordOf state) (order : List String) : Kept recordOf (state.wake order) := by
  unfold RouteServer.wake
  split
  case h_1 roundsLeft hTask =>
    have hIdle : ∀ task, state.tasks .retry = some task →
        task.carried = none ∧ ∀ communityId, task.publishes communityId = false := by
      intro task hOld
      cases hTask.symm.trans hOld
      exact ⟨rfl, fun _ => rfl⟩
    split
    · exact h.moves hTask (fun _ => rfl) (fun _ _ hNew => absurd hNew.symm (Option.some_ne_none _))
        (fun _ hNew => absurd hNew.symm (Option.some_ne_none _)) rfl
    · rename_i entry rest hCollected
      rw [← hCollected]
      exact h.begins _ order _ (fun number hSame => nomatch hSame) hIdle
  case h_2 => exact h

theorem Kept.spawns (h : Kept recordOf before) {task : Task Blob} {communityId : String}
    (hAfter : after.tasks = before.tasks ∧ after.requests = before.requests)
    (hElsewhere : Elsewhere recordOf (· = communityId) before after) (hFree : before.free communityId = true)
    (hWorks : ∀ other, task.works other = true → other = communityId) (hKnows : Knows recordOf after task)
    (hSound : (after.spawn task).stock.Sound) (hAccounted : (after.spawn task).stock.Accounted)
    (hNone : after.hosted communityId = none) : Kept recordOf (after.spawn task) := by
  have hNew : before.tasks (.request before.requests) = none := h.unused _ (Nat.le_refl _)
  have hTasks : (after.spawn task).tasks = Function.update before.tasks (.request before.requests) (some task) := by
    rw [← hAfter.1, ← hAfter.2]
    rfl
  have hRequests : (after.spawn task).requests = before.requests + 1 := congrArg (· + 1) hAfter.2
  refine h.next (· = communityId) hTasks ?_
    ⟨hElsewhere.hosted, hElsewhere.published, hElsewhere.allocated, hElsewhere.dead⟩ ?_ ?_ ?_ ?_ hSound hAccounted ?_
  · intro number hNumber
    have hOld : before.requests + 1 ≤ number := hRequests ▸ hNumber
    rw [hTasks, Function.update_of_ne]
    · exact h.unused number (Nat.le_of_succ_le hOld)
    · intro hSame
      cases hSame
      exact Nat.lt_irrefl _ hOld
  · intro old other hOld
    cases hNew.symm.trans hOld
  · rintro other rival _ - hRival rfl
    exact works_of_free h.unused hFree hRival
  · intro new other hSame hNewWorks
    cases hSame
    exact hWorks other hNewWorks
  · intro new hSame
    cases hSame
    exact hKnows
  · intro other found hOther hFound
    rw [hOther] at hFound
    cases hNone.symm.trans hFound

theorem Kept.host (h : Kept recordOf state) {communityId : String} (hFree : state.free communityId = true) :
    Kept recordOf (state.host communityId (recordOf communityId)) := by
  have hSound := sound_step h.sound (.host communityId (recordOf communityId))
  dsimp only [RouteServer.step, RouteServer.host] at hSound ⊢
  split at hSound
  case h_1 hNone =>
    have hEmpty : state.stock.kept (.task (.request state.requests)) = none :=
      kept_task_of_none (h.unused _ (Nat.le_refl _))
    refine h.spawns ⟨rfl, rfl⟩ (elsewhere_refl _) hFree ?_ ⟨rfl, hNone, trivial⟩ hSound ?_ hNone
    · intro other hWorks
      simp only [Task.works, beq_iff_eq] at hWorks
      exact hWorks.symm
    · have hStock := @stock_setTask_of_none _ state (.request state.requests)
        (some (.hosting communityId (recordOf communityId) .opening)) rfl
      rw [Stock.drop_eq_self hEmpty] at hStock
      exact hStock.symm ▸ h.accounted
  case h_2 => exact h

theorem Kept.unhost (h : Kept recordOf state) {communityId : String} (hFree : state.free communityId = true) :
    Kept recordOf (state.unhost communityId) := by
  have hSound : (state.unhost communityId).stock.Sound := sound_unhost h.sound
  have hGone : (state.setHosted communityId none).hosted communityId = none := Function.update_self ..
  unfold RouteServer.unhost at hSound ⊢
  cases hRoute : state.routeOf communityId with
  | none =>
    rw [hRoute] at hSound
    have hNew : state.tasks (.request state.requests) = none := h.unused _ (Nat.le_refl _)
    have hTasks : (state.setHosted communityId none).tasks =
        Function.update state.tasks (.request state.requests) none := by
      rw [← hNew, Function.update_eq_self]
      rfl
    refine h.next (· = communityId) hTasks h.unused (elsewhere_setHosted communityId none) ?_ ?_
      (fun _ _ hNext => absurd hNext.symm (Option.some_ne_none _))
      (fun _ hNext => absurd hNext.symm (Option.some_ne_none _)) hSound ?_ ?_
    · intro old other hOld
      cases hNew.symm.trans hOld
    · rintro other rival _ - hRival rfl
      exact works_of_free h.unused hFree hRival
    · rw [stock_setHosted_of_none rfl]
      exact h.accounted.drop (Stock.spare_of_none hRoute)
    · intro other found hOther hFound
      rw [hOther] at hFound
      cases hGone.symm.trans hFound
  | some routeId =>
    rw [hRoute] at hSound
    refine h.spawns ⟨rfl, rfl⟩ (elsewhere_setHosted communityId none) hFree (fun _ hWorks => nomatch hWorks) trivial
      hSound ?_ hGone
    have hStock := @stock_take _ state (.request state.requests) communityId (.unhosting routeId) none rfl hRoute.symm
    have hEmpty : state.stock.kept (.task (.request state.requests)) = none :=
      kept_task_of_none (h.unused _ (Nat.le_refl _))
    exact hStock.symm ▸ h.accounted.transfer (Stock.spare_of_none hEmpty) (community_ne_task _ _)

/-! ### Runs -/

theorem Kept.step (h : Kept recordOf state) (hRecords : Function.Injective recordOf) {event : RouteEvent Blob}
    (hMeets : Meets recordOf state event) : Kept recordOf (state.step event) := by
  cases event with
  | tick order =>
    dsimp only [RouteServer.step, tick]
    split
    case h_1 hTask =>
      exact h.begins .keepalive order _ (fun _ hSame => nomatch hSame) fun _ hOld => nomatch hTask.symm.trans hOld
    case h_2 => exact h
  | routesDie routes =>
    have hElsewhere : Elsewhere recordOf (fun _ => False) state (state.routesDie routes) :=
      ⟨fun _ _ => rfl, fun _ _ => rfl, fun _ _ hBlob => hBlob, fun _ hDead => List.mem_append_right routes hDead⟩
    exact {
      sound := h.sound.die routes
      accounted := h.accounted.die routes
      unused := h.unused
      knows := fun handle task hTask => (h.knows handle task hTask).elsewhere hElsewhere fun _ hTouched => hTouched.elim
      apart := h.apart
      communities := fun communityId community hHosted =>
        ⟨(h.communities communityId community hHosted).key, (h.communities communityId community hHosted).blob,
          (h.communities communityId community hHosted).fresh⟩ }
  | routeChange deadRoutes order =>
    dsimp only [RouteServer.step, routeChange]
    split
    case h_1 hTask =>
      exact h.begins .routeChange order _ (fun _ hSame => nomatch hSame) fun _ hOld => nomatch hTask.symm.trans hOld
    case h_2 => exact h
  | wake order => exact h.wake order
  | host communityId dhtRecordKey =>
    obtain ⟨hFree, rfl⟩ := hMeets
    exact h.host hFree
  | unhost communityId => exact h.unhost hMeets
  | turn handle ok => exact h.turn hRecords hMeets
  | allocates handle blob => exact h.allocates blob
  | refuses handle => exact h.refuses

theorem kept_initial : Kept recordOf (initial : RouteServer Blob) where
  sound := sound_initial
  accounted item hMade := absurd hMade (Nat.not_lt_zero item)
  unused _ _ := rfl
  knows handle task hTask := by
    cases handle with
    | retry =>
      cases hTask
      trivial
    | _ => cases hTask
  apart handle other task rival communityId hTask _ hWorks := by
    cases handle with
    | retry =>
      cases hTask
      cases hWorks
    | _ => cases hTask
  communities _ _ hHosted := nomatch hHosted

/-- A community that no task is at work on is served: the route that it holds is the one in its record. -/
structure Served (state : RouteServer Blob) (communityId : String) (community : HostedRoute Blob) : Prop where
  record : ∀ blob, community.routeBlob = some blob → state.published community.dhtRecordKey = some blob
  route : ∀ routeId, community.routeId = some routeId → routeId < state.network.allocated.length ∧
    routeId ∉ state.network.released ∧ community.routeBlob = state.network.allocated[routeId]? ∧
      state.published community.dhtRecordKey = state.network.allocated[routeId]?

/-- Every route that lives is held, in the hands of a task, or was released; at rest the end of the server
releases the rest; and every community that no task is at work on is served. -/
structure Maintained (state : RouteServer Blob) : Prop where
  accounted : ∀ routeId < state.network.allocated.length, routeId ∉ state.network.dead →
    routeId ∈ state.network.released ∨ (∃ communityId, state.routeOf communityId = some routeId) ∨
      ∃ handle task, state.tasks handle = some task ∧ task.carried = some routeId
  ends : (∀ handle task, state.tasks handle = some task → task.carried = none) → ∀ order : List String,
    (∀ communityId, state.hosted communityId ≠ none → communityId ∈ order) →
      ∀ routeId < state.network.allocated.length, routeId ∉ state.network.dead →
        routeId ∈ (state.shutdown order).network.released
  served : ∀ communityId community, state.hosted communityId = some community → state.free communityId = true →
    Served state communityId community

theorem Kept.maintained (h : Kept recordOf state) : Maintained state := by
  have hAccounted : ∀ routeId < state.network.allocated.length, routeId ∉ state.network.dead →
      routeId ∈ state.network.released ∨ (∃ communityId, state.routeOf communityId = some routeId) ∨
        ∃ handle task, state.tasks handle = some task ∧ task.carried = some routeId := by
    intro routeId hMade hAlive
    refine (h.accounted routeId hMade hAlive).imp_right fun ⟨place, hPlace⟩ => ?_
    cases place with
    | community communityId => exact .inl ⟨communityId, hPlace⟩
    | task handle =>
      obtain ⟨task, hTask, hCarried⟩ := Option.bind_eq_some_iff.mp hPlace
      exact .inr ⟨handle, task, hTask, hCarried⟩
  refine ⟨hAccounted, fun hRest order hOrder routeId hMade hAlive => ?_, fun communityId community hHosted hFree => ?_⟩
  · rw [released_shutdown]
    rcases hAccounted routeId hMade hAlive with hReleased | ⟨communityId, hRoute⟩ | ⟨handle, task, hTask, hCarried⟩
    · exact List.mem_append_right _ hReleased
    · refine List.mem_append_left _ (List.mem_reverse.mpr (List.mem_filterMap.mpr ⟨communityId, ?_, hRoute⟩))
      refine hOrder communityId fun hNone => ?_
      rw [routeOf, hNone] at hRoute
      cases hRoute
    · rw [hRest handle task hTask] at hCarried
      cases hCarried
  · have hFits := h.communities communityId community hHosted
    have hRecord : ∀ blob, community.routeBlob = some blob → state.published community.dhtRecordKey = some blob := by
      intro blob hBlob
      rw [hFits.key]
      rcases hFits.fresh blob hBlob with hPublished | ⟨handle, task, hTask, hPublishes⟩
      · exact hPublished
      · have hWorks := Task.works_of_publishes hPublishes
        rw [works_of_free h.unused hFree hTask] at hWorks
        cases hWorks
    refine ⟨hRecord, fun routeId hRoute => ?_⟩
    have hKept : state.stock.kept (.community communityId) = some routeId := (kept_community hHosted).trans hRoute
    obtain ⟨hMade, hNot⟩ := h.sound.keptMade _ routeId hKept
    have hBlob := hFits.blob routeId hRoute
    have hGot := List.getElem?_eq_getElem hMade
    exact ⟨hMade, hNot, hBlob, (hRecord _ (hBlob.trans hGot)).trans hGot.symm⟩

/-- A community is hosted, refreshed, loses its route, gets none, gets one in the end, and is given up;
another never gets a route. -/
def guildRun : List (RouteEvent Nat) :=
  [.host "guild" "guild", .turn (.request 0) true, .allocates (.request 0) 10, .turn (.request 0) true,
    .turn (.request 0) true, .tick ["guild"], .turn .keepalive true, .turn .keepalive true, .turn .keepalive true,
    .allocates .keepalive 11, .turn .keepalive true, .turn .keepalive true, .routesDie [1],
    .routeChange [1] ["guild"], .turn .dispatch true, .refuses .dispatch, .wake ["guild"], .turn .retry true,
    .allocates .retry 12, .turn .retry true, .turn .retry true, .host "club" "club", .turn (.request 1) true,
    .refuses (.request 1), .turn (.request 1) true, .unhost "guild", .turn (.request 2) true]

end RouteServer

end Rekindle.Server.Routes
