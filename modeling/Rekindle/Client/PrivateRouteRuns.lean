import Rekindle.Client.PrivateRoutes

/-! # The life of the private route -/
namespace Rekindle.Client
set_option autoImplicit false
open Runs Custody

variable {Blob : Type}

namespace RouteTask
variable (task : RouteTask Blob)

/-- The task has a route that it is going to store in the node handle. -/
def storesNode : Bool :=
  match task.stage with
  | .allocated _ => true
  | .storing _ => true
  | _ => false

/-- The task is going to replace a dead route, if it gets one. -/
def recovers : Bool :=
  match task.stage with
  | .allocating _ => task.operation == .routeChange
  | _ => false

/-- The task has a route and has still to write to the record. -/
def publishes (record : RouteRecord) : Bool :=
  !task.aborted &&
    match task.stage with
    | .allocated _ => true
    | .storing _ => true
    | .publishing first _ _ => first || task.record false == record
    | _ => false

end RouteTask

/-- The route that a task has got and not stored yet. -/
def RouteStage.carried : RouteStage Blob → Option Nat
  | .allocated route => some route.routeId
  | _ => none

/-- Some task satisfies the test. -/
def Awaits (tasks : Nat → Option (RouteTask Blob)) (test : RouteTask Blob → Bool) : Prop :=
  ∃ handle task, tasks handle = some task ∧ test task = true

namespace RouteState
variable {state : RouteState Blob} {handle : Nat} {task : RouteTask Blob} {ok : Bool}

def published (state : RouteState Blob) : RouteRecord → Option Blob
  | .profile => state.profile
  | .mailbox => state.mailbox

/-- No operation is running. -/
def Quiet (state : RouteState Blob) : Prop := state.logout = none ∧ ∀ handle, state.tasks handle = none

/-- The routing manager and the node handle have the same route, every other route is dead or released,
none was released twice, and the route that is held is the one that is published. -/
structure Settled (state : RouteState Blob) : Prop where
  same : (state.manager.privateRouteId = none ∧ state.node.routeBlob = none) ∨
    ∃ routeId blob, state.network.allocated[routeId]? = some blob ∧
      state.manager = { privateRouteId := some routeId, privateRouteBlob := some blob } ∧
      state.node.routeBlob = some blob
  accounted : ∀ routeId < state.network.allocated.length, routeId ∉ state.network.dead →
    state.manager.privateRouteId = some routeId ∨ routeId ∈ state.network.released
  once : state.network.released.Nodup
  fresh : ∀ routeId, state.manager.privateRouteId = some routeId →
    ∀ record, state.published record = state.network.allocated[routeId]?

/-! ### The condition on a run -/

/-- Another task than that at the handle satisfies the test. -/
def Another (state : RouteState Blob) (handle : Nat) (test : RouteTask Blob → Bool) : Prop :=
  Awaits (Function.update state.tasks handle none) test

/-- The condition on a section of a task. A route gives way only when it is dead or is released, no
task is aborted with a route that it has not stored, and the node handle and the records get the blob
of the route that is held, unless another task is going to write there. -/
def TurnMeets (state : RouteState Blob) (handle : Nat) (task : RouteTask Blob) (ok : Bool) : Prop :=
  match task.stage with
  | .waiting | .allocating _ => True
  | .noticed => ∀ routeId, state.manager.privateRouteId = some routeId → routeId ∈ state.network.dead
  | .allocated _ =>
    task.aborted = false ∧ ∀ routeId, state.manager.privateRouteId = some routeId →
      routeId ∈ state.network.dead ∨ task.operation = .reallocate ∧ ok = true
  | .storing route =>
    state.logout ≠ none ∨ state.Another handle RouteTask.storesNode ∨
      state.manager.privateRouteId = some route.routeId
  | .publishing first value writable =>
    task.aborted = true ∨ state.logout = some .closing ∨
      state.Another handle (RouteTask.publishes · (task.record first)) ∨
      ∀ routeId, state.manager.privateRouteId = some routeId →
        value = state.network.allocated[routeId]? ∧ writable = true ∧ ok = true

/-- The condition on an event. A dead route is replaced, and a logout can release the route that it
finds and leaves none behind. -/
def Meets (state : RouteState Blob) : RouteEvent Blob → Prop
  | .refuses handle => ∀ task, state.tasks handle = some task → task.recovers = true →
    state.logout ≠ none ∨ state.Another handle RouteTask.storesNode ∨
      state.manager.privateRouteId ≠ none ∨ state.node.routeBlob = none
  | .turn handle ok => ∀ task, state.tasks handle = some task → state.TurnMeets handle task ok
  | .logoutTurn ok =>
    match state.logout with
    | some .closing => ∀ routeId, state.manager.privateRouteId = some routeId →
      routeId ∈ state.network.dead ∨ ok = true
    | some .released => state.manager.privateRouteId = none ∨ Awaits state.tasks RouteTask.storesNode
    | none => True
  | _ => True

/-! ### Waiting for a task -/

section
variable {tasks : Nat → Option (RouteTask Blob)} {test : RouteTask Blob → Bool} {next : Option (RouteTask Blob)}

theorem awaits_update_of_new {new : RouteTask Blob} (hTest : test new = true) :
    Awaits (Function.update tasks handle (some new)) test :=
  ⟨handle, new, Function.update_self .., hTest⟩

theorem awaits_update_of_another (h : Awaits (Function.update tasks handle none) test) :
    Awaits (Function.update tasks handle next) test := by
  obtain ⟨other, task, hTask, hTest⟩ := h
  have hOther : other ≠ handle := by
    rintro rfl
    rw [Function.update_self] at hTask
    cases hTask
  rw [Function.update_of_ne hOther] at hTask
  exact ⟨other, task, (Function.update_of_ne hOther ..).trans hTask, hTest⟩

/-- A wait goes on unless it was for the task that changes. -/
theorem awaits_another (h : Awaits tasks test) (hOld : ∀ task, tasks handle = some task → test task = false) :
    Awaits (Function.update tasks handle none) test := by
  obtain ⟨other, task, hTask, hTest⟩ := h
  have hOther : other ≠ handle := by
    rintro rfl
    rw [hOld task hTask] at hTest
    cases hTest
  exact ⟨other, task, (Function.update_of_ne hOther ..).trans hTask, hTest⟩

theorem awaits_update (h : Awaits tasks test) (hOld : ∀ task, tasks handle = some task → test task = false) :
    Awaits (Function.update tasks handle next) test := awaits_update_of_another (awaits_another h hOld)

/-- The changed task may go on being waited for. -/
theorem awaits_update_of_kept {new : RouteTask Blob} (h : Awaits tasks test)
    (hKeep : ∀ task, tasks handle = some task → test task = true → test new = true) :
    Awaits (Function.update tasks handle (some new)) test := by
  cases hNew : test new with
  | true => exact awaits_update_of_new hNew
  | false =>
    refine awaits_update h fun task hTask => ?_
    cases hOld : test task with
    | false => rfl
    | true =>
      rw [hKeep task hTask hOld] at hNew
      cases hNew

end

/-! ### The invariant -/

def carried (tasks : Nat → Option (RouteTask Blob)) (handle : Nat) : Option Nat :=
  (tasks handle).bind fun task => task.stage.carried

/-- The routes as resources: the routing manager holds one, the tasks carry those they have not stored. -/
def ledger (state : RouteState Blob) : Ledger where
  made := state.network.allocated.length
  dead := state.network.dead
  released := state.network.released
  held := state.manager.privateRouteId
  carried := carried state.tasks

/-- What is known of a single task. -/
structure Sound (allocated : List Blob) (task : RouteTask Blob) : Prop where
  steady : task.operation = .routeChange → task.aborted = false
  noticed : task.stage = .noticed → task.operation = .routeChange
  known : ∀ route, task.stage = .allocated route ∨ task.stage = .storing route →
    allocated[route.routeId]? = some route.blob

/-- The node handle and the records have the blob of the held route, or will get it. -/
structure Kept (state : RouteState Blob) : Prop where
  orderly : state.ledger.Orderly
  unused : ∀ handle, state.spawned ≤ handle → state.tasks handle = none
  sound : ∀ handle task, state.tasks handle = some task → Sound state.network.allocated task
  managed : ∀ routeId, state.manager.privateRouteId = some routeId →
    state.manager.privateRouteBlob = state.network.allocated[routeId]?
  node : ∀ routeId, state.manager.privateRouteId = some routeId →
    state.logout ≠ none ∨ state.node.routeBlob = state.network.allocated[routeId]? ∨
      Awaits state.tasks RouteTask.storesNode
  gone : state.manager.privateRouteId = none →
    state.logout ≠ none ∨ state.node.routeBlob = none ∨ Awaits state.tasks RouteTask.storesNode ∨
      Awaits state.tasks RouteTask.recovers
  records : ∀ record routeId, state.manager.privateRouteId = some routeId →
    state.logout = some .closing ∨ state.published record = state.network.allocated[routeId]? ∨
      Awaits state.tasks (RouteTask.publishes · record)

theorem not_awaits_of_quiet (hQuiet : state.Quiet) {test : RouteTask Blob → Bool} :
    ¬ Awaits state.tasks test := by
  rintro ⟨handle, task, hTask, -⟩
  rw [hQuiet.2 handle] at hTask
  cases hTask

/-- When nothing is running nothing is waited for. -/
theorem Kept.settled (h : Kept state) (hQuiet : state.Quiet) : Settled state where
  same := by
    cases hHeld : state.manager.privateRouteId with
    | none =>
      rcases h.gone hHeld with hLogout | hNode | hStores | hRecovers
      · exact absurd hQuiet.1 hLogout
      · exact .inl ⟨rfl, hNode⟩
      · exact absurd hStores (not_awaits_of_quiet hQuiet)
      · exact absurd hRecovers (not_awaits_of_quiet hQuiet)
    | some routeId =>
      have hMade : routeId < state.network.allocated.length := (h.orderly.heldMade routeId hHeld).1
      have hBlob := List.getElem?_eq_getElem hMade
      refine .inr ⟨routeId, state.network.allocated[routeId], hBlob, ?_, ?_⟩
      · have hManaged := h.managed routeId hHeld
        rw [hBlob] at hManaged
        rw [← hHeld, ← hManaged]
      · rcases h.node routeId hHeld with hLogout | hNode | hStores
        · exact absurd hQuiet.1 hLogout
        · exact hNode.trans hBlob
        · exact absurd hStores (not_awaits_of_quiet hQuiet)
  accounted routeId hMade hAlive := by
    rcases h.orderly.accounted routeId hMade hAlive with hHeld | hReleased | ⟨handle, hCarried⟩
    · exact .inl hHeld
    · exact .inr hReleased
    · change (state.tasks handle).bind _ = some routeId at hCarried
      rw [hQuiet.2 handle] at hCarried
      cases hCarried
  once := h.orderly.once
  fresh routeId hHeld record := by
    rcases h.records record routeId hHeld with hLogout | hPublished | hPublishes
    · rw [hQuiet.1] at hLogout
      cases hLogout
    · exact hPublished
    · exact absurd hPublishes (not_awaits_of_quiet hQuiet)

theorem kept_initial : Kept (initial : RouteState Blob) where
  orderly := Ledger.orderly_empty
  unused _ _ := rfl
  sound _ _ hTask := nomatch hTask
  managed _ hHeld := nomatch hHeld
  node _ hHeld := nomatch hHeld
  gone _ := .inr (.inl rfl)
  records _ _ hHeld := nomatch hHeld

/-! ### Tasks that change -/

theorem carried_update (next : Option (RouteTask Blob)) :
    carried (Function.update state.tasks handle next) =
      Function.update (carried state.tasks) handle (next.bind fun task => task.stage.carried) := by
  funext other
  by_cases hOther : other = handle
  · subst hOther
    simp [carried]
  · simp [carried, hOther]

theorem carried_of_task (hTask : state.tasks handle = some task) : carried state.tasks handle = task.stage.carried := by
  rw [carried, hTask, Option.bind_some]

/-- The carriers stay the same when the task carries the same before and after. -/
theorem carried_update_same {next : Option (RouteTask Blob)}
    (hSame : carried state.tasks handle = next.bind fun task => task.stage.carried) :
    carried (Function.update state.tasks handle next) = carried state.tasks := by
  rw [carried_update, ← hSame, Function.update_eq_self]

theorem unused_update (h : Kept state) {next : Option (RouteTask Blob)} (hTask : state.tasks handle = some task) :
    ∀ other, state.spawned ≤ other → Function.update state.tasks handle next other = none := by
  intro other hOther
  have hDiffers : other ≠ handle := by
    rintro rfl
    rw [h.unused other hOther] at hTask
    cases hTask
  rw [Function.update_of_ne hDiffers]
  exact h.unused other hOther

theorem sound_update {allocated : List Blob} {tasks : Nat → Option (RouteTask Blob)} {next : Option (RouteTask Blob)}
    (h : ∀ other task, tasks other = some task → Sound allocated task)
    (hNext : ∀ task, next = some task → Sound allocated task) :
    ∀ other task, Function.update tasks handle next other = some task → Sound allocated task := by
  intro other task hTask
  by_cases hOther : other = handle
  · rw [hOther, Function.update_self] at hTask
    exact hNext task hTask
  · rw [Function.update_of_ne hOther] at hTask
    exact h other task hTask

theorem ledger_setTask_same {next : Option (RouteTask Blob)}
    (hSame : carried state.tasks handle = next.bind fun task => task.stage.carried) :
    (state.setTask handle next).ledger = state.ledger := by
  have hCarried := carried_update_same hSame
  simp only [ledger, setTask, hCarried]

/-- A task changes, and nothing else. Whoever waited for it gets what they waited for, or still does. -/
theorem Kept.setTask (h : Kept state) {next : Option (RouteTask Blob)} (hTask : state.tasks handle = some task)
    (hCarried : task.stage.carried = next.bind fun task => task.stage.carried)
    (hSound : ∀ new, next = some new → Sound state.network.allocated new)
    (hStores : task.storesNode = false) (hPublishes : ∀ record, task.publishes record = false)
    (hRecovers : task.recovers = true → (∃ new, next = some new ∧ new.recovers = true) ∨
      (state.manager.privateRouteId = none → state.logout ≠ none ∨ state.node.routeBlob = none ∨
        state.Another handle RouteTask.storesNode)) :
    Kept (state.setTask handle next) where
  orderly := by
    rw [ledger_setTask_same ((carried_of_task hTask).trans hCarried)]
    exact h.orderly
  unused := unused_update h hTask
  sound := sound_update h.sound hSound
  managed := h.managed
  node routeId hHeld := by
    refine (h.node routeId hHeld).imp_right fun hNode => hNode.imp_right fun hAwaits => ?_
    refine awaits_update hAwaits fun other hOther => ?_
    cases hTask.symm.trans hOther
    exact hStores
  gone hNone := by
    have hSame : ∀ other, state.tasks handle = some other → other = task := fun other hOther =>
      Option.some.inj (hOther.symm.trans hTask)
    rcases h.gone hNone with hLogout | hNode | hAwaits | hAwaits
    · exact .inl hLogout
    · exact .inr (.inl hNode)
    · refine .inr (.inr (.inl (awaits_update hAwaits fun other hOther => ?_)))
      rw [hSame other hOther]
      exact hStores
    · cases hOld : task.recovers with
      | false =>
        refine .inr (.inr (.inr (awaits_update hAwaits fun other hOther => ?_)))
        rw [hSame other hOther]
        exact hOld
      | true =>
        rcases hRecovers hOld with ⟨new, rfl, hNew⟩ | hElse
        · exact .inr (.inr (.inr (awaits_update_of_new hNew)))
        · rcases hElse hNone with hLogout | hNode | hAnother
          · exact .inl hLogout
          · exact .inr (.inl hNode)
          · exact .inr (.inr (.inl (awaits_update_of_another hAnother)))
  records record routeId hHeld := by
    refine (h.records record routeId hHeld).imp_right fun hRecord => hRecord.imp_right fun hAwaits => ?_
    refine awaits_update hAwaits fun other hOther => ?_
    cases hTask.symm.trans hOther
    exact hPublishes record

/-- A new task has no route yet. -/
theorem Kept.spawn (h : Kept state) {operation : RouteOperation} {stage : RouteStage Blob}
    (hStage : stage.carried = none) (hSound : Sound state.network.allocated ⟨operation, stage, false⟩) :
    Kept (state.spawn operation stage) := by
  have hFree : state.tasks state.spawned = none := h.unused _ (Nat.le_refl _)
  have hNothing : ∀ (test : RouteTask Blob → Bool) task, state.tasks state.spawned = some task → test task = false := by
    intro test task hTask
    rw [hFree] at hTask
    cases hTask
  refine ⟨?_, ?_, ?_, h.managed, ?_, ?_, ?_⟩
  · have hCarried : carried state.tasks state.spawned = stage.carried := by
      rw [hStage, carried, hFree]
      rfl
    change (state.setTask state.spawned (some ⟨operation, stage, false⟩)).ledger.Orderly
    rw [ledger_setTask_same hCarried]
    exact h.orderly
  · intro other hOther
    have hDiffers : other ≠ state.spawned := Nat.ne_of_gt hOther
    exact (Function.update_of_ne hDiffers ..).trans (h.unused other (Nat.le_of_lt hOther))
  · refine sound_update h.sound fun new hNew => ?_
    cases hNew
    exact hSound
  · intro routeId hHeld
    exact (h.node routeId hHeld).imp_right fun hNode => hNode.imp_right fun hAwaits =>
      awaits_update hAwaits (hNothing _)
  · intro hNone
    exact (h.gone hNone).imp_right fun hNode => hNode.imp_right fun hAwaits =>
      hAwaits.imp (awaits_update · (hNothing _)) (awaits_update · (hNothing _))
  · intro record routeId hHeld
    exact (h.records record routeId hHeld).imp_right fun hRecord => hRecord.imp_right fun hAwaits =>
      awaits_update hAwaits (hNothing _)

/-! ### Events -/

theorem Kept.login (h : Kept state) : Kept state.login := by
  rw [RouteState.login]
  split
  · exact h
  · have hSession : Kept { state with loggedIn := true, refreshLoop := true } :=
      ⟨h.orderly, h.unused, h.sound, h.managed, h.node, h.gone, h.records⟩
    exact hSession.spawn rfl ⟨fun _ => rfl, nofun, nofun⟩

theorem Kept.refresh (h : Kept state) : Kept state.refresh := by
  rw [RouteState.refresh]
  split
  · exact h.spawn rfl ⟨fun _ => rfl, nofun, nofun⟩
  · exact h

theorem Kept.routeChange (h : Kept state) (deadRoutes : List Nat) : Kept (state.routeChange deadRoutes) := by
  rw [RouteState.routeChange]
  split
  · exact h.spawn rfl ⟨fun _ => rfl, fun _ => rfl, nofun⟩
  · exact h

theorem Kept.routesDie (h : Kept state) (routes : List Nat) : Kept (state.routesDie routes) :=
  ⟨h.orderly.die routes, h.unused, h.sound, h.managed, h.node, h.gone, h.records⟩

theorem sound_abort {allocated : List Blob} (h : Sound allocated task) : Sound allocated task.abort where
  steady hRecovery := by
    change task.operation = .routeChange at hRecovery
    change (task.operation != .routeChange) = false
    rw [hRecovery]
    rfl
  noticed := h.noticed
  known := h.known

theorem carried_abort : carried (fun handle => (state.tasks handle).map RouteTask.abort) = carried state.tasks := by
  funext handle
  cases hTask : state.tasks handle with
  | none => simp only [carried, hTask, Option.map_none]
  | some task =>
    simp only [carried, hTask, Option.map_some]
    rfl

theorem Kept.beginLogout (h : Kept state) : Kept state.beginLogout := by
  rw [RouteState.beginLogout]
  split
  · refine ⟨?_, ?_, ?_, h.managed, fun _ _ => .inl (Option.some_ne_none _), fun _ => .inl (Option.some_ne_none _),
      fun _ _ _ => .inl rfl⟩
    · have hLedger := h.orderly
      rw [ledger, ← carried_abort] at hLedger
      exact hLedger
    · intro handle hUnused
      change (state.tasks handle).map RouteTask.abort = none
      rw [h.unused handle hUnused]
      rfl
    · intro handle aborted hAborted
      obtain ⟨task, hTask, rfl⟩ := Option.map_eq_some_iff.mp hAborted
      exact sound_abort (h.sound handle task hTask)
  · exact h

/-- What a release leaves: the manager holds nothing, and the route is released or was dead. -/
theorem releasePrivateRoute_cases (state : RouteState Blob) (ok : Bool) :
    ∃ manager network, state.releasePrivateRoute ok = { state with manager, network } ∧
      manager.privateRouteId = none ∧ network.allocated = state.network.allocated ∧
      (state.ledger.Orderly →
        (∀ routeId, state.manager.privateRouteId = some routeId → routeId ∈ state.network.dead ∨ ok = true) →
        (state.releasePrivateRoute ok).ledger.Orderly) := by
  cases hHeld : state.manager.privateRouteId with
  | none =>
    refine ⟨⟨none, none⟩, state.network, ?_, rfl, rfl, fun hOrderly _ => ?_⟩
    · simp only [releasePrivateRoute, hHeld]
    · have hForget := hOrderly.forget fun item hItem => by
        rw [ledger, hHeld] at hItem
        cases hItem
      simp only [releasePrivateRoute, hHeld]
      exact hForget
  | some routeId =>
    cases hOk : (ok && decide (routeId ∉ state.network.dead)) with
    | true =>
      refine ⟨⟨none, none⟩, { state.network with released := routeId :: state.network.released }, ?_, rfl, rfl,
        fun hOrderly _ => ?_⟩
      · simp only [releasePrivateRoute, hHeld, hOk, if_true]
      · have hRelease := hOrderly.release hHeld
        simp only [releasePrivateRoute, hHeld, hOk, if_true]
        exact hRelease
    | false =>
      refine ⟨{ state.manager with privateRouteId := none }, state.network, ?_, rfl, rfl, fun hOrderly hMay => ?_⟩
      · simp only [releasePrivateRoute, hHeld, hOk, Bool.false_eq_true, if_false]
      · have hDead : routeId ∈ state.network.dead := by
          rcases hMay routeId rfl with hDead | rfl
          · exact hDead
          · simpa using hOk
        have hForget := hOrderly.forget fun item hItem => by
          rw [ledger, hHeld] at hItem
          cases hItem
          exact hDead
        simp only [releasePrivateRoute, hHeld, hOk, Bool.false_eq_true, if_false]
        exact hForget

theorem Kept.advanceLogout (h : Kept state) (hMeets : state.Meets (.logoutTurn ok)) :
    Kept (state.advanceLogout ok) := by
  cases hLogout : state.logout with
  | none =>
    simp only [RouteState.advanceLogout, hLogout]
    exact h
  | some stage =>
    cases stage with
    | closing =>
      simp only [Meets, hLogout] at hMeets
      simp only [RouteState.advanceLogout, hLogout]
      obtain ⟨manager, network, hRelease, hNone, hAllocated, hOrderly⟩ := releasePrivateRoute_cases state ok
      have hLedger := hOrderly h.orderly hMeets
      rw [hRelease] at hLedger ⊢
      refine ⟨hLedger, h.unused, ?_, ?_, ?_, fun _ => .inl (Option.some_ne_none _), ?_⟩
      · intro handle task hTask
        change Sound network.allocated task
        rw [hAllocated]
        exact h.sound handle task hTask
      · intro routeId hHeld
        cases hNone.symm.trans hHeld
      · exact fun _ _ => .inl (Option.some_ne_none _)
      · intro record routeId hHeld
        cases hNone.symm.trans hHeld
    | released =>
      simp only [Meets, hLogout] at hMeets
      simp only [RouteState.advanceLogout, hLogout]
      refine ⟨h.orderly, h.unused, h.sound, h.managed, ?_, fun _ => .inr (.inl rfl), ?_⟩
      · intro routeId hHeld
        rcases hMeets with hNone | hStores
        · cases hNone.symm.trans hHeld
        · exact .inr (.inr hStores)
      · intro record routeId hHeld
        rcases h.records record routeId hHeld with hClosing | hRest
        · rw [hLogout] at hClosing
          cases hClosing
        · exact .inr hRest

theorem Kept.refuses (h : Kept state) (hMeets : state.Meets (.refuses handle)) : Kept (state.refuses handle) := by
  cases hTask : state.tasks handle with
  | none =>
    simp only [RouteState.refuses, hTask]
    exact h
  | some task =>
    have hOld := h.sound handle task hTask
    obtain ⟨operation, stage, aborted⟩ := task
    cases stage with
    | allocating attempt =>
      simp only [RouteState.refuses, hTask]
      refine h.setTask hTask ?_ ?_ rfl (fun _ => Bool.and_false _) fun hRecovers => .inr fun hNone => ?_
      · split <;> [split; skip] <;> rfl
      · intro new hNew
        split at hNew
        · split at hNew <;> cases hNew <;> exact ⟨hOld.steady, nofun, nofun⟩
        · cases hNew
      · rcases hMeets _ hTask hRecovers with hLogout | hAnother | hHeld | hNode
        · exact .inl hLogout
        · exact .inr (.inr hAnother)
        · exact absurd hNone hHeld
        · exact .inr (.inl hNode)
    | waiting | noticed | allocated _ | storing _ | publishing _ _ _ =>
      simp only [RouteState.refuses, hTask]
      exact h

/-- The blobs of the routes that there are do not change when there is a new one. -/
theorem getElem?_allocated {allocated : List Blob} {routeId : Nat} {blob : Blob} (new : Blob)
    (h : allocated[routeId]? = some blob) : (allocated ++ [new])[routeId]? = some blob := by
  rw [List.getElem?_append_left (List.getElem?_eq_some_iff.mp h).1, h]

theorem Kept.allocates (h : Kept state) (blob : Blob) : Kept (state.allocates handle blob) := by
  cases hTask : state.tasks handle with
  | none =>
    simp only [RouteState.allocates, hTask]
    exact h
  | some task =>
    have hOld := h.sound handle task hTask
    obtain ⟨operation, stage, aborted⟩ := task
    cases stage with
    | allocating attempt =>
      simp only [RouteState.allocates, hTask]
      have hHeldSame : ∀ routeId, state.manager.privateRouteId = some routeId →
          (state.network.allocated ++ [blob])[routeId]? = state.network.allocated[routeId]? := fun routeId hHeld =>
        List.getElem?_append_left (h.orderly.heldMade routeId hHeld).1
      have hKeep : ∀ (test : RouteTask Blob → Bool), (∀ task : RouteTask Blob, task.stage = .allocating attempt →
          test task = false) → ∀ task, state.tasks handle = some task → test task = false := by
        intro test hTest other hOther
        rw [hTask] at hOther
        cases hOther
        exact hTest _ rfl
      refine ⟨?_, unused_update h hTask, ?_, ?_, ?_, ?_, ?_⟩
      · have hMade := h.orderly.make ((carried_of_task hTask).trans rfl)
        have hLength : (state.network.allocated ++ [blob]).length = state.network.allocated.length + 1 :=
          List.length_append
        simp only [ledger, RouteState.setTask, carried_update, hLength]
        exact hMade
      · refine sound_update (fun other task hOther => ?_) fun new hNew => ?_
        · obtain ⟨hSteady, hNoticed, hKnown⟩ := h.sound other task hOther
          exact ⟨hSteady, hNoticed, fun route hRoute => getElem?_allocated blob (hKnown route hRoute)⟩
        · cases hNew
          refine ⟨hOld.steady, nofun, ?_⟩
          rintro route (hRoute | hRoute)
          · cases hRoute
            exact List.getElem?_concat_length ..
          · cases hRoute
      · intro routeId hHeld
        exact (h.managed routeId hHeld).trans (hHeldSame routeId hHeld).symm
      · intro routeId hHeld
        exact .inr (.inr (awaits_update_of_new rfl))
      · intro _
        exact .inr (.inr (.inl (awaits_update_of_new rfl)))
      · intro record routeId hHeld
        rw [show (_ : RouteState Blob).network.allocated[routeId]? = _ from hHeldSame routeId hHeld]
        refine (h.records record routeId hHeld).imp_right fun hRecord => hRecord.imp_right fun hAwaits => ?_
        refine awaits_update hAwaits (hKeep _ fun task hStage => ?_)
        rw [RouteTask.publishes, hStage]
        exact Bool.and_false _
    | waiting | noticed | allocated _ | storing _ | publishing _ _ _ =>
      simp only [RouteState.allocates, hTask]
      exact h

/-! ### Sections of a task -/

theorem Kept.dropped (h : Kept state) (hTask : state.tasks handle = some task) (hDropped : task.dropped = true)
    (hMeets : state.TurnMeets handle task ok) : Kept (state.setTask handle none) := by
  obtain ⟨operation, stage, aborted⟩ := task
  have hAborted : aborted = true := (Bool.and_eq_true_iff.mp hDropped).1
  subst hAborted
  have hStage : stage.carried = none ∧ RouteTask.storesNode ⟨operation, stage, true⟩ = false := by
    cases stage with
    | allocated route => exact absurd hMeets.1 Bool.noConfusion
    | storing route => cases hDropped
    | waiting | noticed | allocating _ | publishing _ _ _ => exact ⟨rfl, rfl⟩
  refine h.setTask hTask hStage.1 nofun hStage.2 (fun _ => rfl) fun hRecovers => ?_
  have hSteady := (h.sound handle _ hTask).steady
  cases stage with
  | allocating attempt =>
    cases hSteady (beq_iff_eq.mp hRecovers)
  | waiting | noticed | allocated _ | storing _ | publishing _ _ _ => cases hRecovers

theorem Kept.wakes (h : Kept state) (hTask : state.tasks handle = some task) (hStage : task.stage = .waiting) :
    Kept (state.setTask handle (if ok then some (task.goTo (.allocating 1)) else none)) := by
  have hOld := h.sound handle task hTask
  obtain ⟨operation, stage, aborted⟩ := task
  subst hStage
  refine h.setTask hTask ?_ ?_ rfl (fun _ => Bool.and_false _) nofun
  · split <;> rfl
  · intro new hNew
    split at hNew <;> cases hNew
    exact ⟨hOld.steady, nofun, nofun⟩

/-- A dead route is forgotten; the task is going to replace it. -/
theorem Kept.forgets (h : Kept state) (hTask : state.tasks handle = some task) (hStage : task.stage = .noticed)
    (hMeets : state.TurnMeets handle task ok) :
    Kept (state.forgetPrivateRoute.setTask handle (some (task.goTo (.allocating 1)))) := by
  have hOld := h.sound handle task hTask
  obtain ⟨operation, stage, aborted⟩ := task
  subst hStage
  have hRecovery : operation = .routeChange := hOld.noticed rfl
  subst hRecovery
  refine ⟨?_, unused_update h hTask, sound_update h.sound ?_, nofun, nofun, ?_, nofun⟩
  · have hForget := h.orderly.forget hMeets
    rw [ledger_setTask_same (carried_of_task hTask)]
    exact hForget
  · intro new hNew
    cases hNew
    exact ⟨hOld.steady, nofun, nofun⟩
  · exact fun _ => .inr (.inr (.inr (awaits_update_of_new rfl)))

/-- The manager gives way to the route of the task. -/
theorem storeRoute_cases (h : Kept state) {route : RouteBlob Blob} (hTask : state.tasks handle = some task)
    (hStage : task.stage = .allocated route) (hMeets : state.TurnMeets handle task ok) :
    ∃ network, state.storeRoute task route ok =
        { state with network, manager := ⟨some route.routeId, some route.blob⟩ } ∧
      network.allocated = state.network.allocated ∧
      ((state.storeRoute task route ok).setTask handle (some (task.goTo (.storing route)))).ledger.Orderly := by
  have hCarried : state.ledger.carried handle = some route.routeId := by
    change carried state.tasks handle = some route.routeId
    rw [carried_of_task hTask, hStage]
    rfl
  rw [TurnMeets, hStage] at hMeets
  obtain ⟨-, hMay⟩ := hMeets
  have hPlain : (∀ routeId, state.manager.privateRouteId = some routeId → routeId ∈ state.network.dead) →
      ((state.setAllocatedRoute route).setTask handle (some (task.goTo (.storing route)))).ledger.Orderly := by
    intro hDead
    have hOver := (h.orderly.forget hDead).handOver rfl hCarried
    simp only [ledger, RouteState.setTask, carried_update]
    exact hOver
  cases hOperation : task.operation with
  | reallocate =>
    obtain ⟨manager, network, hRelease, hNone, hAllocated, hOrderly⟩ := releasePrivateRoute_cases state ok
    have hReleased := hOrderly h.orderly fun routeId hHeld => (hMay routeId hHeld).imp_right And.right
    simp only [storeRoute, hOperation]
    rw [hRelease] at hReleased ⊢
    refine ⟨network, rfl, hAllocated, ?_⟩
    have hOver := hReleased.handOver hNone hCarried
    simp only [ledger, RouteState.setTask, carried_update]
    exact hOver
  | spawnDhtPublish | routeChange =>
    simp only [storeRoute, hOperation]
    refine ⟨state.network, rfl, rfl, hPlain fun routeId hHeld => ?_⟩
    rcases hMay routeId hHeld with hDead | ⟨hOther, -⟩
    · exact hDead
    · rw [hOperation] at hOther
      cases hOther

theorem Kept.storesRoute (h : Kept state) {route : RouteBlob Blob} (hTask : state.tasks handle = some task)
    (hStage : task.stage = .allocated route) (hMeets : state.TurnMeets handle task ok) :
    Kept ((state.storeRoute task route ok).setTask handle (some (task.goTo (.storing route)))) := by
  obtain ⟨network, hStore, hAllocated, hOrderly⟩ := storeRoute_cases h hTask hStage hMeets
  have hOld := h.sound handle task hTask
  have hKnown := hOld.known route (.inl hStage)
  rw [TurnMeets, hStage] at hMeets
  rw [hStore] at hOrderly ⊢
  refine ⟨hOrderly, unused_update h hTask, ?_, ?_, ?_, nofun, ?_⟩
  · change ∀ other task', Function.update state.tasks handle _ other = some task' → Sound network.allocated task'
    rw [hAllocated]
    refine sound_update h.sound fun new hNew => ?_
    cases hNew
    refine ⟨hOld.steady, nofun, ?_⟩
    rintro other (hOther | hOther)
    · cases hOther
    · cases hOther
      exact hKnown
  · intro routeId hHeld
    cases hHeld
    change some route.blob = network.allocated[route.routeId]?
    rw [hAllocated, hKnown]
  · exact fun _ _ => .inr (.inr (awaits_update_of_new rfl))
  · intro record routeId _
    refine .inr (.inr (awaits_update_of_new ?_))
    change (!task.aborted && true) = true
    rw [hMeets.1]
    rfl

theorem Kept.storesBlob (h : Kept state) {route : RouteBlob Blob} (hTask : state.tasks handle = some task)
    (hStage : task.stage = .storing route) (hMeets : state.TurnMeets handle task ok) :
    Kept ((state.storeBlob route).setTask handle
      (if task.aborted then none else some (task.goTo (state.firstPublication task route.blob)))) := by
  have hOld := h.sound handle task hTask
  have hKnown := hOld.known route (.inr hStage)
  rw [TurnMeets, hStage] at hMeets
  obtain ⟨operation, stage, aborted⟩ := task
  subst hStage
  have hPublishing : ∃ writable, state.firstPublication ⟨operation, .storing route, aborted⟩ route.blob =
      .publishing true (some route.blob) writable := by
    cases operation <;> exact ⟨_, rfl⟩
  obtain ⟨writable, hNext⟩ := hPublishing
  rw [hNext]
  refine ⟨?_, unused_update h hTask, sound_update h.sound ?_, h.managed, ?_, ?_, ?_⟩
  · have hSame : carried state.tasks handle =
        (if aborted = true then none else some (RouteTask.mk operation (.publishing true (some route.blob) writable)
          aborted)).bind fun task => task.stage.carried := by
      rw [carried_of_task hTask]
      cases aborted <;> rfl
    have hLedger := ledger_setTask_same hSame
    exact hLedger ▸ h.orderly
  · intro new hNew
    split at hNew <;> cases hNew
    exact ⟨hOld.steady, nofun, nofun⟩
  · intro routeId hHeld
    rcases hMeets with hLogout | hAnother | hRoute
    · exact .inl hLogout
    · exact .inr (.inr (awaits_update_of_another hAnother))
    · cases hRoute.symm.trans hHeld
      exact .inr (.inl hKnown.symm)
  · intro hNone
    rcases hMeets with hLogout | hAnother | hRoute
    · exact .inl hLogout
    · exact .inr (.inr (.inl (awaits_update_of_another hAnother)))
    · cases hRoute.symm.trans hNone
  · intro record routeId hHeld
    refine (h.records record routeId hHeld).imp_right fun hRecord => hRecord.imp_right fun hAwaits => ?_
    cases aborted with
    | true =>
      refine awaits_update hAwaits fun other hOther => ?_
      cases hTask.symm.trans hOther
      rfl
    | false => exact awaits_update_of_new rfl

/-- A publication changes its record alone, and the keys that a login remembers. -/
theorem tryPublish_cases (state : RouteState Blob) (task : RouteTask Blob) (first : Bool) (value : Option Blob)
    (written : Bool) :
    ∃ profile mailbox hasProfileDhtKey hasMailboxDhtKey,
      state.tryPublish task first value written =
        { state with profile, mailbox, node := ⟨state.node.routeBlob, hasProfileDhtKey, hasMailboxDhtKey⟩ } ∧
      (∀ record, record ≠ task.record first →
        (state.tryPublish task first value written).published record = state.published record) ∧
      (∀ blob, value = some blob → written = true →
        (state.tryPublish task first value written).published (task.record first) = some blob) := by
  cases written with
  | false => exact ⟨_, _, _, _, rfl, fun _ _ => rfl, nofun⟩
  | true =>
    simp only [tryPublish, if_true]
    cases hRecord : task.record first with
    | profile =>
      cases task.operation <;>
        exact ⟨_, _, _, _, rfl, fun record hOther => by cases record <;> trivial, fun _ hValue _ => hValue⟩
    | mailbox =>
      cases value with
      | none =>
        cases task.operation <;> exact ⟨_, _, _, _, rfl, fun record hOther => by cases record <;> rfl, nofun⟩
      | some blob =>
        cases task.operation <;>
          exact ⟨_, _, _, _, rfl, fun record hOther => by cases record <;> trivial, fun _ hValue _ => hValue⟩

/-- The two publications write to different records. -/
theorem record_false_of_ne {record : RouteRecord} (h : record ≠ task.record true) : task.record false = record := by
  obtain ⟨operation, stage, aborted⟩ := task
  cases operation <;> cases record <;> trivial

theorem Kept.publishes (h : Kept state) {first writable : Bool} {value : Option Blob}
    {next : Option (RouteTask Blob)} (hTask : state.tasks handle = some task)
    (hStage : task.stage = .publishing first value writable) (hAlive : task.dropped = false)
    (hMeets : state.TurnMeets handle task ok)
    (hNext : ∀ new, next = some new → new.operation = task.operation ∧ new.aborted = task.aborted ∧
      ∃ value writable, new.stage = .publishing false value writable)
    (hEnds : next = none → first = false) :
    Kept ((state.tryPublish task first value (writable && ok)).setTask handle next) := by
  have hOld := h.sound handle task hTask
  rw [TurnMeets, hStage] at hMeets
  have hSteady : task.aborted = false := by
    rw [RouteTask.dropped, hStage] at hAlive
    simpa using hAlive
  obtain ⟨profile, mailbox, hasProfile, hasMailbox, hPublish, hOthers, hWritten⟩ :=
    tryPublish_cases state task first value (writable && ok)
  have hStores : ∀ other, state.tasks handle = some other → other.storesNode = false := by
    intro other hOther
    cases hTask.symm.trans hOther
    rw [RouteTask.storesNode, hStage]
  have hRecovers : ∀ other, state.tasks handle = some other → other.recovers = false := by
    intro other hOther
    cases hTask.symm.trans hOther
    rw [RouteTask.recovers, hStage]
  rw [hPublish] at hOthers hWritten ⊢
  refine ⟨?_, unused_update h hTask, sound_update h.sound ?_, h.managed, ?_, ?_, ?_⟩
  · have hSame : carried state.tasks handle = next.bind fun task => task.stage.carried := by
      rw [carried_of_task hTask, hStage]
      cases hNew : next with
      | none => rfl
      | some new =>
        obtain ⟨-, -, value, writable, hNewStage⟩ := hNext new hNew
        rw [Option.bind_some, hNewStage]
        rfl
    exact ledger_setTask_same hSame ▸ h.orderly
  · intro new hNew
    obtain ⟨hOperation, hAborted, value, writable, hNewStage⟩ := hNext new hNew
    refine ⟨fun _ => hAborted.trans hSteady, ?_, ?_⟩ <;> rw [hNewStage] <;> nofun
  · intro routeId hHeld
    exact (h.node routeId hHeld).imp_right fun hNode => hNode.imp_right (awaits_update · hStores)
  · intro hNone
    exact (h.gone hNone).imp_right fun hNode => hNode.imp_right fun hAwaits =>
      hAwaits.imp (awaits_update · hStores) (awaits_update · hRecovers)
  · intro record routeId hHeld
    by_cases hRecord : record = task.record first
    · subst hRecord
      rcases hMeets with hAborted | hClosing | hAnother | hCurrent
      · rw [hSteady] at hAborted
        cases hAborted
      · exact .inl hClosing
      · exact .inr (.inr (awaits_update_of_another hAnother))
      · obtain ⟨hValue, rfl, rfl⟩ := hCurrent routeId hHeld
        have hBlob := List.getElem?_eq_getElem (h.orderly.heldMade routeId hHeld).1
        have hNow := hWritten _ (hValue.trans hBlob) rfl
        exact .inr (.inl (hNow.trans hBlob.symm))
    · have hUnchanged := hOthers record hRecord
      refine (h.records record routeId hHeld).imp_right fun hRest => ?_
      rcases hRest with hPublished | hAwaits
      · exact .inl (hUnchanged.trans hPublished)
      · refine .inr ?_
        cases first with
        | false =>
          refine awaits_update hAwaits fun other hOther => ?_
          cases hTask.symm.trans hOther
          have hDone : (task.record false == record) = false := beq_false_of_ne (Ne.symm hRecord)
          rw [RouteTask.publishes, hStage]
          simp [hDone]
        | true =>
          cases hNew : next with
          | none => cases hEnds hNew
          | some new =>
            obtain ⟨hOperation, hAborted, value, writable, hNewStage⟩ := hNext new hNew
            have hSecond : new.record false = record := by
              simp only [RouteTask.record, hOperation]
              exact record_false_of_ne hRecord
            refine awaits_update_of_new ?_
            rw [RouteTask.publishes, hNewStage, hAborted, hSteady, hSecond]
            exact beq_self_eq_true record

theorem Kept.turn (h : Kept state) (hMeets : state.Meets (.turn handle ok)) : Kept (state.turn handle ok) := by
  rw [RouteState.turn]
  cases hTask : state.tasks handle with
  | none => exact h
  | some task =>
    have hTurn := hMeets task hTask
    change Kept (state.advance handle task ok)
    rw [RouteState.advance]
    cases hDropped : task.dropped with
    | true => exact h.dropped hTask hDropped hTurn
    | false =>
      rw [if_neg Bool.false_ne_true]
      cases hStage : task.stage with
      | waiting => exact h.wakes hTask hStage
      | noticed => exact h.forgets hTask hStage hTurn
      | allocating attempt => exact h
      | allocated route => exact h.storesRoute hTask hStage hTurn
      | storing route => exact h.storesBlob hTask hStage hTurn
      | publishing first value writable =>
        cases first with
        | false => exact h.publishes hTask hStage hDropped hTurn nofun fun _ => rfl
        | true =>
          refine h.publishes hTask hStage hDropped hTurn (fun new hNew => ?_) nofun
          cases hNew
          refine ⟨rfl, rfl, ?_⟩
          simp only [RouteTask.goTo, secondPublication]
          split <;> exact ⟨_, _, rfl⟩

/-! ### Runs -/

theorem kept_step (event : RouteEvent Blob) (h : Kept state) (hMeets : state.Meets event) :
    Kept (state.step event) := by
  cases event with
  | login => exact h.login
  | refresh => exact h.refresh
  | routesDie routes => exact h.routesDie routes
  | routeChange deadRoutes => exact h.routeChange deadRoutes
  | allocates handle blob => exact h.allocates blob
  | refuses handle => exact h.refuses hMeets
  | turn handle ok => exact h.turn hMeets
  | logout => exact h.beginLogout
  | logoutTurn ok => exact h.advanceLogout hMeets

/-- In a run whose events meet the condition the private route is settled whenever no operation runs. -/
theorem private_route_settled (events : List (RouteEvent Blob)) (hMeets : Along step Meets initial events) :
    Along step (fun state event => (state.step event).Quiet → Settled (state.step event)) initial events := by
  refine (Along.of_invariant Kept (fun state event hKept hEvent => ?_) kept_initial hMeets).1
  have hNext := kept_step event hKept hEvent
  exact ⟨hNext, hNext.settled⟩

/-- A login that gets a route and publishes it. -/
def loginRun : List (RouteEvent String) :=
  [.login, .turn 0 true, .allocates 0 "first", .turn 0 true, .turn 0 true, .turn 0 true, .turn 0 true]

/-- The login and a logout. -/
def sessionRun : List (RouteEvent String) := loginRun ++ [.logout, .logoutTurn true, .logoutTurn true]

theorem private_route_settled_session :
    Along step (fun state event => (state.step event).Quiet → Settled (state.step event)) initial sessionRun := by
  apply private_route_settled
  refine ⟨trivial, ?_, trivial, ?_, ?_, ?_, ?_, trivial, fun _ _ => .inr rfl, .inl rfl, trivial⟩
  · rintro _ ⟨⟩
    trivial
  · rintro _ ⟨⟩
    exact ⟨rfl, nofun⟩
  · rintro _ ⟨⟩
    exact .inr (.inr rfl)
  · rintro _ ⟨⟩
    refine .inr (.inr (.inr fun routeId hHeld => ?_))
    cases hHeld
    exact ⟨rfl, rfl, rfl⟩
  · rintro _ ⟨⟩
    refine .inr (.inr (.inr fun routeId hHeld => ?_))
    cases hHeld
    exact ⟨rfl, rfl, rfl⟩

/-- The route dies, and no other is to be had: the node handle keeps the blob of the dead one. -/
theorem dead_route_stays_in_node_handle :
    ¬ Along step (fun state event => (state.step event).Quiet → Settled (state.step event)) initial
      (loginRun ++ [.routesDie [0], .routeChange [0], .turn 1 true] ++ [.refuses 1]) := by
  intro hRun
  have hSettled := hRun.last ⟨rfl, fun handle => ?_⟩
  · rcases hSettled.same with ⟨-, hNode⟩ | ⟨routeId, blob, -, hManager, -⟩
    · cases hNode
    · cases hManager
  · match handle with
    | 0 | 1 => rfl
    | handle + 2 => rfl

end RouteState

end Rekindle.Client
