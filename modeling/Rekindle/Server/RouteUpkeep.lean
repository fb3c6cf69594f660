import Rekindle.Server.RouteOwnership

/-! # The upkeep of the routes -/
namespace Rekindle.Server.Routes
set_option autoImplicit false
open Runs Holders

variable {Blob : Type}

/-- The loop has begun with the community. -/
def Stage.begun : Stage Blob → Bool
  | .opening | .clearing | .starting => false
  | _ => true

namespace Task

/-- The task is at work on the community. -/
def works : Task Blob → String → Bool
  | .refreshing _ stage entry _, communityId => stage.begun && entry.communityId == communityId
  | .hosting hostedId _ _, communityId => hostedId == communityId
  | _, _ => false

/-- The task is about to write the route of the community. -/
def publishes : Task Blob → String → Bool
  | .refreshing _ (.publishing _) entry _, communityId => entry.communityId == communityId
  | _, _ => false

theorem works_of_publishes {task : Task Blob} {communityId : String} (h : task.publishes communityId = true) :
    task.works communityId = true := by
  unfold publishes at h
  split at h
  · exact h
  · cases h

theorem works_next (loop : Loop) (entries : List (KeepaliveData Blob)) {task : Task Blob}
    (h : loop.next entries = some task) (communityId : String) : task.works communityId = false := by
  cases entries with
  | nil =>
    cases loop with
    | retry roundsLeft =>
      cases roundsLeft with
      | zero => cases h
      | succ roundsLeft =>
        cases h
        rfl
    | _ => cases h
  | cons entry rest => cases loop <;> cases h <;> rfl

end Task

namespace RouteServer
variable (recordOf : String → String) {state before after : RouteServer Blob} {handle : TaskId}

def handles (state : RouteServer Blob) : List TaskId :=
  [.keepalive, .dispatch, .retry] ++ (List.range state.requests).map .request

/-- No task is at work on the community. -/
def free (state : RouteServer Blob) (communityId : String) : Bool :=
  state.handles.all fun handle => !(state.tasks handle).any (·.works communityId)

/-! ### The condition on a run -/

/-- A section that begins with a community, or that writes. No other task is at work on the community, which
is as the loop has collected it; and the network takes what is written. -/
def TurnMeets (state : RouteServer Blob) (ok : Bool) : Task Blob → Prop
  | .refreshing _ .opening entry _ => ok = true → state.free entry.communityId = true ∧
      ∃ community ∈ state.hosted entry.communityId, community.routeBlob = entry.routeBlob
  | .refreshing _ .clearing entry _ => state.free entry.communityId = true ∧
      ∃ community ∈ state.hosted entry.communityId, ∀ routeId ∈ community.routeId, routeId ∈ state.network.dead
  | .refreshing _ .starting entry _ => state.free entry.communityId = true ∧
      ∃ community ∈ state.hosted entry.communityId, community.routeId = none
  | .refreshing _ (.publishing value) _ _ => value ≠ none → ok = true
  | .hosting _ _ .opening => ok = true
  | .hosting _ _ (.publishing _) => ok = true
  | _ => True

/-- The condition on an event. Each community has its own record. -/
def Meets (state : RouteServer Blob) : RouteEvent Blob → Prop
  | .host communityId dhtRecordKey => state.free communityId = true ∧ dhtRecordKey = recordOf communityId
  | .unhost communityId => state.free communityId = true
  | .turn handle ok => ∀ task ∈ state.tasks handle, state.TurnMeets ok task
  | _ => True

instance [DecidableEq Blob] (state : RouteServer Blob) (ok : Bool) (task : Task Blob) :
    Decidable (state.TurnMeets ok task) := by
  unfold TurnMeets
  split <;> infer_instance

instance [DecidableEq Blob] (state : RouteServer Blob) (event : RouteEvent Blob) :
    Decidable (Meets recordOf state event) := by
  unfold Meets
  split <;> infer_instance

/-! ### What is known of a task -/

/-- What a community has keeps no route that lives. -/
def Spent (state : RouteServer Blob) (community : HostedRoute Blob) : Prop :=
  ∀ routeId, community.routeId = some routeId → routeId ∈ state.network.dead

/-- Where a loop is, the community is so. -/
def StageFits (state : RouteServer Blob) (loop : Loop) (entry : KeepaliveData Blob) (community : HostedRoute Blob) :
    Stage Blob → Prop
  | .taking => loop = .keepalive → entry.routeBlob = community.routeBlob
  | .releasing _ | .allocating => Spent state community ∧
      (loop = .keepalive → entry.routeBlob = community.routeBlob)
  | .allocated route => Spent state community ∧
      state.network.allocated[route.routeId]? = some route.blob
  | .publishing value => community.routeBlob = value
  | .opening | .clearing | .starting => True

def HostStageFits (state : RouteServer Blob) (communityId : String) : HostStage Blob → Prop
  | .opening => True
  | .allocating dhtOpened => dhtOpened = true
  | .publishing route => state.network.allocated[route.routeId]? = some route.blob
  | .inserting none => True
  | .inserting (some route) => state.network.allocated[route.routeId]? = some route.blob ∧
      state.published (recordOf communityId) = some route.blob

def Knows (state : RouteServer Blob) : Task Blob → Prop
  | .refreshing loop stage entry rest =>
    (∀ data ∈ entry :: rest, data.dhtKey = recordOf data.communityId) ∧
      (stage.begun = true → ∃ community, state.hosted entry.communityId = some community ∧
        StageFits state loop entry community stage) ∧
      (stage.begun = false → stage = loop.firstStage)
  | .hosting communityId dhtRecordKey stage =>
    dhtRecordKey = recordOf communityId ∧ state.hosted communityId = none ∧
      HostStageFits recordOf state communityId stage
  | .unhosting _ | .sleeping _ => True

/-- What is known of a community: the blob is that of its route, and is published, or is going to be. -/
structure CommunityFits (state : RouteServer Blob) (communityId : String) (community : HostedRoute Blob) : Prop where
  key : community.dhtRecordKey = recordOf communityId
  blob : ∀ routeId, community.routeId = some routeId → community.routeBlob = state.network.allocated[routeId]?
  fresh : ∀ blob, community.routeBlob = some blob → state.published (recordOf communityId) = some blob ∨
    ∃ handle task, state.tasks handle = some task ∧ task.publishes communityId = true

structure Kept (state : RouteServer Blob) : Prop where
  sound : state.stock.Sound
  accounted : state.stock.Accounted
  unused : ∀ number, state.requests ≤ number → state.tasks (.request number) = none
  knows : ∀ handle task, state.tasks handle = some task → Knows recordOf state task
  apart : ∀ handle other task rival communityId, state.tasks handle = some task → state.tasks other = some rival →
    task.works communityId = true → rival.works communityId = true → handle = other
  communities : ∀ communityId community, state.hosted communityId = some community →
    CommunityFits recordOf state communityId community

variable {recordOf}

theorem works_of_free (h : ∀ number, state.requests ≤ number → state.tasks (.request number) = none)
    {communityId : String} (hFree : state.free communityId = true) {task : Task Blob}
    (hTask : state.tasks handle = some task) : task.works communityId = false := by
  have hHandle : handle ∈ state.handles := by
    cases handle with
    | request number =>
      refine List.mem_append_right _ (List.mem_map.mpr ⟨number, List.mem_range.mpr ?_, rfl⟩)
      by_contra hUnused
      rw [h number (Nat.le_of_not_lt hUnused)] at hTask
      cases hTask
    | _ => simp [handles]
  have hOne := List.all_eq_true.mp hFree handle hHandle
  rw [hTask] at hOne
  simpa using hOne

/-! ### Communities that a step leaves alone -/

/-- A step changes the communities of the test only. Routes are made and die. -/
structure Elsewhere (recordOf : String → String) (touched : String → Prop) (before after : RouteServer Blob) :
    Prop where
  hosted : ∀ communityId, ¬ touched communityId → after.hosted communityId = before.hosted communityId
  published : ∀ communityId, ¬ touched communityId →
    after.published (recordOf communityId) = before.published (recordOf communityId)
  allocated : ∀ (routeId : Nat) (blob : Blob), before.network.allocated[routeId]? = some blob →
    after.network.allocated[routeId]? = some blob
  dead : ∀ routeId ∈ before.network.dead, routeId ∈ after.network.dead

variable {touched : String → Prop}

theorem Spent.elsewhere {community : HostedRoute Blob} (h : Spent before community)
    (hElsewhere : Elsewhere recordOf touched before after) : Spent after community :=
  fun routeId hRoute => hElsewhere.dead routeId (h routeId hRoute)

theorem StageFits.elsewhere {loop : Loop} {entry : KeepaliveData Blob} {community : HostedRoute Blob}
    {stage : Stage Blob} (h : StageFits before loop entry community stage)
    (hElsewhere : Elsewhere recordOf touched before after) : StageFits after loop entry community stage := by
  cases stage with
  | releasing routeId => exact ⟨h.1.elsewhere hElsewhere, h.2⟩
  | allocating => exact ⟨h.1.elsewhere hElsewhere, h.2⟩
  | allocated route => exact ⟨h.1.elsewhere hElsewhere, hElsewhere.allocated _ _ h.2⟩
  | _ => exact h

theorem Knows.elsewhere {task : Task Blob} (h : Knows recordOf before task)
    (hElsewhere : Elsewhere recordOf touched before after)
    (hWorks : ∀ communityId, touched communityId → task.works communityId = false) : Knows recordOf after task := by
  cases task with
  | refreshing loop stage entry rest =>
    refine ⟨h.1, fun hBegun => ?_, h.2.2⟩
    obtain ⟨community, hHosted, hFits⟩ := h.2.1 hBegun
    have hUntouched : ¬ touched entry.communityId := by
      intro hTouched
      have hIdle := hWorks entry.communityId hTouched
      simp [Task.works, hBegun] at hIdle
    exact ⟨community, (hElsewhere.hosted _ hUntouched).trans hHosted, hFits.elsewhere hElsewhere⟩
  | hosting communityId dhtRecordKey stage =>
    have hUntouched : ¬ touched communityId := by
      intro hTouched
      have hIdle := hWorks communityId hTouched
      simp [Task.works] at hIdle
    refine ⟨h.1, (hElsewhere.hosted _ hUntouched).trans h.2.1, ?_⟩
    have hFits := h.2.2
    cases stage with
    | publishing route => exact hElsewhere.allocated _ _ hFits
    | inserting route =>
      cases route with
      | none => trivial
      | some route => exact ⟨hElsewhere.allocated _ _ hFits.1, (hElsewhere.published _ hUntouched).trans hFits.2⟩
    | _ => exact hFits
  | _ => trivial

theorem elsewhere_refl (touched : String → Prop) : Elsewhere recordOf touched state state :=
  ⟨fun _ _ => rfl, fun _ _ => rfl, fun _ _ h => h, fun _ h => h⟩

theorem Elsewhere.setTask (h : Elsewhere recordOf touched before after) (next : Option (Task Blob)) :
    Elsewhere recordOf touched before (after.setTask handle next) :=
  ⟨h.hosted, h.published, h.allocated, h.dead⟩

theorem elsewhere_setHosted (communityId : String) (community : Option (HostedRoute Blob)) :
    Elsewhere recordOf (· = communityId) state (state.setHosted communityId community) where
  hosted _ hOther := Function.update_of_ne hOther ..
  published _ _ := rfl
  allocated _ _ h := h
  dead _ h := h

theorem elsewhere_publish (hRecords : Function.Injective recordOf) (communityId : String) (value : Option Blob)
    (ok : Bool) : Elsewhere recordOf (· = communityId) state (state.publish (recordOf communityId) value ok) := by
  cases value with
  | none => exact elsewhere_refl _
  | some blob =>
    cases ok with
    | false => exact elsewhere_refl _
    | true =>
      exact ⟨fun _ _ => rfl, fun other hOther => Function.update_of_ne (hRecords.ne hOther) .., fun _ _ h => h,
        fun _ h => h⟩

/-- A step gives one task another stage, and changes the communities that the task is at work on. -/
theorem Kept.next (h : Kept recordOf before) (touched : String → Prop) {next : Option (Task Blob)}
    (hTasks : after.tasks = Function.update before.tasks handle next)
    (hUnused : ∀ number, after.requests ≤ number → after.tasks (.request number) = none)
    (hElsewhere : Elsewhere recordOf touched before after)
    (hBefore : ∀ task communityId, before.tasks handle = some task → task.publishes communityId = true →
      touched communityId)
    (hOthers : ∀ other task communityId, other ≠ handle → before.tasks other = some task →
      touched communityId → task.works communityId = false)
    (hAfter : ∀ task communityId, next = some task → task.works communityId = true → touched communityId)
    (hKnows : ∀ task, next = some task → Knows recordOf after task)
    (hSound : after.stock.Sound) (hAccounted : after.stock.Accounted)
    (hCommunities : ∀ communityId community, touched communityId → after.hosted communityId = some community →
      CommunityFits recordOf after communityId community) : Kept recordOf after where
  sound := hSound
  accounted := hAccounted
  unused := hUnused
  knows other task hTask := by
    rw [hTasks] at hTask
    by_cases hOther : other = handle
    · subst hOther
      rw [Function.update_self] at hTask
      exact hKnows task hTask
    · rw [Function.update_of_ne hOther] at hTask
      exact (h.knows other task hTask).elsewhere hElsewhere fun communityId hTouched =>
        hOthers other task communityId hOther hTask hTouched
  apart first second task rival communityId hTask hRival hWorks hRivalWorks := by
    rw [hTasks] at hTask hRival
    by_cases hFirst : first = handle <;> by_cases hSecond : second = handle
    · rw [hFirst, hSecond]
    · subst hFirst
      rw [Function.update_self] at hTask
      rw [Function.update_of_ne hSecond] at hRival
      rw [hOthers second rival communityId hSecond hRival (hAfter task communityId hTask hWorks)] at hRivalWorks
      cases hRivalWorks
    · subst hSecond
      rw [Function.update_self] at hRival
      rw [Function.update_of_ne hFirst] at hTask
      rw [hOthers first task communityId hFirst hTask (hAfter rival communityId hRival hRivalWorks)] at hWorks
      cases hWorks
    · rw [Function.update_of_ne hFirst] at hTask
      rw [Function.update_of_ne hSecond] at hRival
      exact h.apart first second task rival communityId hTask hRival hWorks hRivalWorks
  communities communityId community hHosted := by
    by_cases hTouched : touched communityId
    · exact hCommunities communityId community hTouched hHosted
    · have hBeforeHosted := (hElsewhere.hosted communityId hTouched).symm.trans hHosted
      have hFits := h.communities communityId community hBeforeHosted
      refine ⟨hFits.key, fun routeId hRoute => ?_, fun blob hBlob => ?_⟩
      · have hMade : routeId < before.network.allocated.length :=
          (h.sound.keptMade (.community communityId) routeId (by simp [stock, routeOf, hBeforeHosted, hRoute])).1
        have hOld := List.getElem?_eq_getElem hMade
        exact ((hFits.blob routeId hRoute).trans hOld).trans (hElsewhere.allocated routeId _ hOld).symm
      · rcases hFits.fresh blob hBlob with hPublished | ⟨other, task, hTask, hPublishes⟩
        · exact .inl ((hElsewhere.published communityId hTouched).trans hPublished)
        · refine .inr ⟨other, task, ?_, hPublishes⟩
          have hOther : other ≠ handle := by
            rintro rfl
            exact hTouched (hBefore task communityId hTask hPublishes)
          rw [hTasks, Function.update_of_ne hOther]
          exact hTask

/-- No other task is at work on the community. -/
def Owns (state : RouteServer Blob) (handle : TaskId) (communityId : String) : Prop :=
  ∀ other task, other ≠ handle → state.tasks other = some task → task.works communityId = false

theorem works_unique {task : Task Blob} {communityId other : String} (h : task.works communityId = true)
    (hOther : task.works other = true) : other = communityId := by
  cases task with
  | refreshing loop stage entry rest =>
    simp only [Task.works, Bool.and_eq_true, beq_iff_eq] at h hOther
    exact hOther.2.symm.trans h.2
  | hosting hostedId dhtRecordKey stage =>
    simp only [Task.works, beq_iff_eq] at h hOther
    exact hOther.symm.trans h
  | _ => cases h

theorem Kept.owns_of_works (h : Kept recordOf state) {task : Task Blob} {communityId : String}
    (hTask : state.tasks handle = some task) (hWorks : task.works communityId = true) :
    Owns state handle communityId := by
  intro other rival hOther hRival
  cases hRivalWorks : rival.works communityId with
  | false => rfl
  | true => exact absurd (h.apart other handle rival task communityId hRival hTask hRivalWorks hWorks) hOther

theorem Kept.owns_of_free (h : Kept recordOf state) {communityId : String} (hFree : state.free communityId = true) :
    Owns state handle communityId :=
  fun _ _ _ hRival => works_of_free h.unused hFree hRival

theorem Kept.live (h : Kept recordOf state) {task : Task Blob} (hTask : state.tasks handle = some task) (number : Nat)
    (hNumber : state.requests ≤ number) : handle ≠ .request number := by
  rintro rfl
  rw [h.unused number hNumber] at hTask
  cases hTask

theorem unused_update (h : ∀ number, state.requests ≤ number → state.tasks (.request number) = none)
    (hHandle : ∀ number, state.requests ≤ number → handle ≠ .request number) (next : Option (Task Blob))
    (number : Nat) (hNumber : state.requests ≤ number) :
    Function.update state.tasks handle next (.request number) = none :=
  (Function.update_of_ne (hHandle number hNumber).symm ..).trans (h number hNumber)

/-- A task that has no route and publishes nothing goes on, and nothing else changes. -/
theorem Kept.setTask (h : Kept recordOf state) {next : Option (Task Blob)}
    (hHandle : ∀ number, state.requests ≤ number → handle ≠ .request number)
    (hQuiet : ∀ task communityId, state.tasks handle = some task → task.publishes communityId = false)
    (hOwns : ∀ task communityId, next = some task → task.works communityId = true → Owns state handle communityId)
    (hKnows : ∀ task, next = some task → Knows recordOf state task)
    (hCarried : next.bind Task.carried = (state.tasks handle).bind Task.carried) :
    Kept recordOf (state.setTask handle next) := by
  have hStock := stock_setTask_of_same hCarried
  refine h.next (fun communityId => ∃ task, next = some task ∧ task.works communityId = true) rfl
    (unused_update h.unused hHandle next) ((elsewhere_refl _).setTask next) ?_ ?_
    (fun task _ hTask hWorks => ⟨task, hTask, hWorks⟩) hKnows (hStock.symm ▸ h.sound) (hStock.symm ▸ h.accounted) ?_
  · intro task communityId hTask hPublishes
    rw [hQuiet task communityId hTask] at hPublishes
    cases hPublishes
  · rintro other task communityId hOther hTask ⟨new, hNew, hWorks⟩
    exact hOwns new communityId hNew hWorks other task hOther hTask
  · rintro communityId community - hHosted
    have hFits := h.communities communityId community hHosted
    refine ⟨hFits.key, hFits.blob, fun blob hBlob => ?_⟩
    refine (hFits.fresh blob hBlob).imp_right ?_
    rintro ⟨other, task, hTask, hPublishes⟩
    refine ⟨other, task, ?_, hPublishes⟩
    have hOther : other ≠ handle := by
      rintro rfl
      rw [hQuiet task communityId hTask] at hPublishes
      cases hPublishes
    exact (Function.update_of_ne hOther ..).trans hTask

/-- The community that a task is at work on changes in memory. -/
theorem Kept.update (h : Kept recordOf state) {task : Task Blob} {communityId : String}
    {community : HostedRoute Blob} {next : Option (Task Blob)} (hTask : state.tasks handle = some task)
    (hOwns : Owns state handle communityId) (hOnly : ∀ other, task.works other = true → other = communityId)
    (hNext : ∀ new other, next = some new → new.works other = true → other = communityId)
    (hKnows : ∀ new, next = some new → Knows recordOf (state.setHosted communityId (some community)) new)
    (hAccounted : ((state.setHosted communityId (some community)).setTask handle next).stock.Accounted)
    (hSound : ((state.setHosted communityId (some community)).setTask handle next).stock.Sound)
    (hFits : CommunityFits recordOf ((state.setHosted communityId (some community)).setTask handle next)
      communityId community) :
    Kept recordOf ((state.setHosted communityId (some community)).setTask handle next) := by
  refine h.next (· = communityId) rfl (unused_update h.unused (h.live hTask) next)
    ((elsewhere_setHosted _ _).setTask next) ?_ ?_ hNext hKnows hSound hAccounted ?_
  · intro old other hOld hPublishes
    cases hTask.symm.trans hOld
    exact hOnly other (Task.works_of_publishes hPublishes)
  · rintro other rival _ hOther hRival rfl
    exact hOwns other rival hOther hRival
  · intro other found hOther hFound
    rw [hOther] at hFound ⊢
    have hNew : (state.setHosted communityId (some community)).hosted communityId = some community :=
      Function.update_self ..
    cases hNew.symm.trans hFound
    exact hFits

end RouteServer

end Rekindle.Server.Routes
