import Rekindle.Library.Holders
import Rekindle.Library.Runs
import Rekindle.Server.RouteTasks

/-! # Each route has one owner -/
namespace Rekindle.Server.Routes
set_option autoImplicit false
open Runs Holders

variable {Blob : Type}

/-- The route that a task has taken, or got and not stored yet. -/
def Task.carried : Task Blob → Option Nat
  | .refreshing _ (.releasing routeId) _ _ => some routeId
  | .refreshing _ (.allocated route) _ _ => some route.routeId
  | .hosting _ _ (.publishing route) => some route.routeId
  | .hosting _ _ (.inserting route) => route.map RouteBlob.routeId
  | .unhosting routeId => some routeId
  | _ => none

inductive Place where
  | community (communityId : String)
  | task (handle : TaskId)
deriving DecidableEq

theorem community_ne_task (communityId : String) (handle : TaskId) : Place.community communityId ≠ .task handle := by
  intro h
  cases h

@[simp] theorem carried_next (loop : Loop) (rest : List (KeepaliveData Blob)) :
    (loop.next rest).bind Task.carried = none := by
  cases rest with
  | nil =>
    cases loop with
    | retry roundsLeft => cases roundsLeft <;> rfl
    | _ => rfl
  | cons entry rest => cases loop <;> rfl

namespace RouteServer
variable {state : RouteServer Blob} {handle : TaskId} {communityId : String}

/-- The routes as resources: a community keeps one, a task those it has in hand. -/
def stock (state : RouteServer Blob) : Stock Place where
  made := state.network.allocated.length
  dead := state.network.dead
  released := state.network.released
  kept
    | .community communityId => state.routeOf communityId
    | .task handle => (state.tasks handle).bind Task.carried

theorem kept_task {task : Task Blob} (hTask : state.tasks handle = some task) :
    state.stock.kept (.task handle) = task.carried := by
  change (state.tasks handle).bind Task.carried = task.carried
  rw [hTask, Option.bind_some]

theorem kept_task_of_none (hTask : state.tasks handle = none) : state.stock.kept (.task handle) = none := by
  change (state.tasks handle).bind Task.carried = none
  rw [hTask, Option.bind_none]

theorem kept_community {community : HostedRoute Blob} (hHosted : state.hosted communityId = some community) :
    state.stock.kept (.community communityId) = community.routeId := by
  change (state.hosted communityId).bind HostedRoute.routeId = community.routeId
  rw [hHosted, Option.bind_some]

/-! ### What the changes of the state do to the stock -/

theorem stock_setTask (task : Option (Task Blob)) :
    (state.setTask handle task).stock =
      { state.stock with kept := Function.update state.stock.kept (.task handle) (task.bind Task.carried) } := by
  refine congrArg (Stock.mk _ _ _) (funext fun place => ?_)
  cases place with
  | community communityId =>
    exact (Function.update_of_ne (community_ne_task communityId handle) (task.bind Task.carried) state.stock.kept).symm
  | task other =>
    by_cases hSame : other = handle
    · subst hSame
      simp [setTask]
    · simp [setTask, stock, hSame]

theorem stock_setHosted (community : Option (HostedRoute Blob)) :
    (state.setHosted communityId community).stock =
      { state.stock with
        kept := Function.update state.stock.kept (.community communityId)
          (community.bind HostedRoute.routeId) } := by
  refine congrArg (Stock.mk _ _ _) (funext fun place => ?_)
  cases place with
  | community other =>
    by_cases hSame : other = communityId
    · subst hSame
      simp [setHosted, routeOf]
    · simp [setHosted, stock, routeOf, hSame]
  | task handle =>
    exact (Function.update_of_ne (community_ne_task communityId handle).symm (community.bind HostedRoute.routeId)
      state.stock.kept).symm

theorem stock_setTask_of_none {task : Option (Task Blob)} (h : task.bind Task.carried = none) :
    (state.setTask handle task).stock = state.stock.drop (.task handle) := by
  rw [stock_setTask, h]
  rfl

theorem stock_setTask_of_same {task : Option (Task Blob)}
    (h : task.bind Task.carried = (state.tasks handle).bind Task.carried) :
    (state.setTask handle task).stock = state.stock := by
  rw [stock_setTask, h]
  exact congrArg (Stock.mk _ _ _) (Function.update_eq_self (Place.task handle) state.stock.kept)

theorem stock_setHosted_of_none {community : Option (HostedRoute Blob)}
    (h : community.bind HostedRoute.routeId = none) :
    (state.setHosted communityId community).stock = state.stock.drop (.community communityId) := by
  rw [stock_setHosted, h]
  rfl

theorem emptied {change : HostedRoute Blob → HostedRoute Blob} (h : ∀ community, (change community).routeId = none)
    (community : Option (HostedRoute Blob)) : (community.map change).bind HostedRoute.routeId = none := by
  cases community with
  | none => rfl
  | some community => exact h community

theorem stock_publish (dhtKey : String) (value : Option Blob) (ok : Bool) :
    (state.publish dhtKey value ok).stock = state.stock := by
  cases value <;> cases ok <;> rfl

/-- A task takes what the community has. -/
theorem stock_take {task : Task Blob} {community : Option (HostedRoute Blob)}
    (hCommunity : community.bind HostedRoute.routeId = none) (hTask : task.carried = state.routeOf communityId) :
    ((state.setHosted communityId community).setTask handle (some task)).stock =
      state.stock.transfer (.community communityId) (.task handle) := by
  rw [stock_setTask, stock_setHosted_of_none hCommunity, Option.bind_some, hTask, Stock.drop, Stock.transfer,
    Function.update_comm (community_ne_task _ _)]
  rfl

/-- A task gives its route to a community. -/
theorem stock_give {task : Option (Task Blob)} {community : HostedRoute Blob}
    (hCarried : (state.tasks handle).bind Task.carried = community.routeId)
    (hTask : task.bind Task.carried = none) :
    ((state.setHosted communityId (some community)).setTask handle task).stock =
      state.stock.transfer (.task handle) (.community communityId) := by
  rw [stock_setTask, stock_setHosted, hTask, Option.bind_some, ← hCarried]
  rfl

theorem stock_releasePrivateRoute {routeId : Nat} {task : Option (Task Blob)} (hTask : task.bind Task.carried = none) :
    ((state.releasePrivateRoute routeId).setTask handle task).stock =
      state.stock.release (.task handle) routeId := by
  rw [stock_setTask_of_none hTask]
  rfl

theorem stock_newPrivateRoute {blob : Blob} {task : Task Blob}
    (hTask : task.carried = some state.network.allocated.length) :
    ((state.newPrivateRoute blob).setTask handle (some task)).stock = state.stock.make (.task handle) := by
  rw [stock_setTask, Option.bind_some, hTask, Stock.make]
  exact congrArg (Stock.mk · _ _ _) List.length_append

/-! ### One owner after each step -/

theorem sound_refresh (h : state.stock.Sound) {loop : Loop} {stage : Stage Blob} {entry : KeepaliveData Blob}
    {rest : List (KeepaliveData Blob)} (hTask : state.tasks handle = some (.refreshing loop stage entry rest))
    (ok : Bool) : (state.refresh handle loop stage entry rest ok).stock.Sound := by
  cases stage with
  | opening =>
    rw [refresh, stock_setTask_of_none (by cases ok <;> simp [Task.carried])]
    exact h.drop _
  | starting =>
    rw [refresh, stock_setTask_of_none rfl]
    exact h.drop _
  | clearing =>
    rw [refresh, stock_setTask_of_none rfl, modify, stock_setHosted_of_none (emptied (fun _ => rfl) _)]
    exact (h.drop _).drop _
  | taking =>
    dsimp only [refresh, modify]
    have hEmpty := @emptied Blob (fun community => { community with routeId := none }) (fun _ => rfl)
      (state.hosted entry.communityId)
    cases hRoute : state.routeOf entry.communityId with
    | none =>
      rw [stock_setTask_of_none rfl, stock_setHosted_of_none hEmpty]
      exact (h.drop _).drop _
    | some oldRouteId =>
      rw [@stock_take _ state handle entry.communityId (.refreshing loop (.releasing oldRouteId) entry rest) _ hEmpty
        hRoute.symm]
      exact h.transfer _ _
  | releasing routeId =>
    rw [refresh, stock_releasePrivateRoute rfl]
    exact h.release (kept_task hTask)
  | allocating => exact h
  | allocated route =>
    dsimp only [refresh, modify]
    cases state.hosted entry.communityId with
    | none =>
      rw [Option.map_none, stock_setTask_of_none rfl, stock_setHosted]
      exact (h.drop (.community entry.communityId)).drop _
    | some community =>
      rw [Option.map_some, stock_give (by rw [hTask]; rfl) rfl]
      exact h.transfer _ _
  | publishing value =>
    rw [refresh, stock_setTask_of_none (carried_next loop rest), stock_publish]
    exact h.drop _

theorem sound_hostSection (h : state.stock.Sound) {dhtRecordKey : String} {stage : HostStage Blob}
    (hTask : state.tasks handle = some (.hosting communityId dhtRecordKey stage)) (ok : Bool) :
    (state.hostSection handle communityId dhtRecordKey stage ok).stock.Sound := by
  cases stage with
  | opening =>
    rw [hostSection, stock_setTask_of_none rfl]
    exact h.drop _
  | allocating dhtOpened => exact h
  | publishing route =>
    rw [hostSection, stock_setTask, stock_publish, ← stock_setTask, stock_setTask_of_same (by rw [hTask]; rfl)]
    exact h
  | inserting route =>
    rw [hostSection, stock_give (by rw [hTask]; rfl) rfl]
    exact h.transfer _ _

theorem sound_turn (h : state.stock.Sound) (ok : Bool) : (state.turn handle ok).stock.Sound := by
  unfold turn
  split
  case h_1 hTask => exact sound_refresh h hTask ok
  case h_2 hTask => exact sound_hostSection h hTask ok
  case h_3 routeId hTask =>
    rw [stock_releasePrivateRoute rfl]
    exact h.release (kept_task hTask)
  all_goals exact h

theorem sound_allocates (h : state.stock.Sound) (blob : Blob) : (state.allocates handle blob).stock.Sound := by
  unfold allocates
  dsimp only
  split
  · rw [stock_newPrivateRoute rfl]
    exact h.make _
  · rw [stock_newPrivateRoute (by split <;> rfl)]
    exact h.make _
  · exact h

theorem sound_refuses (h : state.stock.Sound) : (state.refuses handle).stock.Sound := by
  unfold refuses
  split
  · rw [stock_setTask_of_none rfl]
    exact h.drop _
  · rw [stock_setTask_of_none (carried_next ..), modify, stock_setHosted_of_none (emptied (fun _ => rfl) _)]
    exact (h.drop _).drop _
  · rw [stock_setTask_of_none (carried_next ..)]
    exact h.drop _
  · rw [stock_setTask_of_none rfl]
    exact h.drop _
  · exact h

theorem sound_unhost (h : state.stock.Sound) : (state.unhost communityId).stock.Sound := by
  unfold unhost
  cases hRoute : state.routeOf communityId with
  | none =>
    rw [stock_setHosted_of_none rfl]
    exact h.drop _
  | some routeId =>
    have hStock := @stock_take _ state (.request state.requests) communityId (.unhosting routeId) none rfl hRoute.symm
    exact hStock.symm ▸ h.transfer _ _

theorem sound_setTask_next (h : state.stock.Sound) (loop : Loop) (entries : List (KeepaliveData Blob)) :
    (state.setTask handle (loop.next entries)).stock.Sound := by
  rw [stock_setTask_of_none (carried_next loop entries)]
  exact h.drop _

theorem sound_step (h : state.stock.Sound) (event : RouteEvent Blob) : (state.step event).stock.Sound := by
  cases event with
  | tick order =>
    dsimp only [step, tick]
    split
    · exact sound_setTask_next h _ _
    · exact h
  | routesDie routes => exact h.die routes
  | routeChange deadRoutes order =>
    dsimp only [step, routeChange]
    split
    · exact sound_setTask_next h _ _
    · exact h
  | wake order =>
    dsimp only [step, wake]
    split
    · split
      · rw [stock_setTask_of_none rfl]
        exact h.drop _
      · exact sound_setTask_next h _ _
    · exact h
  | host communityId dhtRecordKey =>
    dsimp only [step, host]
    split
    · have hStock := @stock_setTask_of_none _ state (.request state.requests)
        (some (.hosting communityId dhtRecordKey .opening)) rfl
      exact hStock.symm ▸ h.drop _
    · exact h
  | unhost communityId => exact sound_unhost h
  | turn handle ok => exact sound_turn h ok
  | allocates handle blob => exact sound_allocates h blob
  | refuses handle => exact sound_refuses h

theorem sound_initial : (initial : RouteServer Blob).stock.Sound where
  once := List.nodup_nil
  releasedMade _ hItem := absurd hItem List.not_mem_nil
  keptMade place item hKept := by
    cases place with
    | community communityId => cases hKept
    | task handle => cases handle <;> cases hKept
  apart place _ item hKept := by
    cases place with
    | community communityId => cases hKept
    | task handle => cases handle <;> cases hKept

theorem released_shutdown (order : List String) :
    (state.shutdown order).network.released = (order.filterMap state.routeOf).reverse ++ state.network.released := by
  have hFold : ∀ (routes : List Nat) (state : RouteServer Blob),
      (routes.foldl releasePrivateRoute state).network.released = routes.reverse ++ state.network.released := by
    intro routes
    induction routes with
    | nil => exact fun _ => rfl
    | cons routeId routes ih =>
      intro state
      rw [List.foldl_cons, ih, List.reverse_cons, List.append_assoc]
      rfl
  exact hFold _ _

/-- Nothing is released twice, and a route that a community holds or a task has in hand is nobody else's and
was not released. The end of the server releases what is held then, and nothing a second time. -/
structure OneOwner (state : RouteServer Blob) : Prop where
  once : state.network.released.Nodup
  held : ∀ communityId routeId, state.routeOf communityId = some routeId → routeId ∉ state.network.released
  apart : ∀ communityId other routeId, state.routeOf communityId = some routeId →
    state.routeOf other = some routeId → communityId = other
  carried : ∀ handle task routeId, state.tasks handle = some task → task.carried = some routeId →
    routeId ∉ state.network.released ∧ (∀ communityId, state.routeOf communityId ≠ some routeId) ∧
      ∀ other rival, state.tasks other = some rival → rival.carried = some routeId → other = handle
  ends : ∀ order : List String, order.Nodup → (state.shutdown order).network.released.Nodup

theorem OneOwner.of_sound (h : state.stock.Sound) : OneOwner state where
  once := h.once
  held communityId routeId hRoute := (h.keptMade (.community communityId) routeId hRoute).2
  apart communityId other routeId hOne hTwo := by
    have hSame := h.apart (.community communityId) (.community other) routeId hOne hTwo
    cases hSame
    rfl
  carried handle task routeId hTask hCarried := by
    have hKept : state.stock.kept (.task handle) = some routeId := (kept_task hTask).trans hCarried
    refine ⟨(h.keptMade _ routeId hKept).2, fun communityId hRoute => ?_, fun other rival hRival hOther => ?_⟩
    · exact community_ne_task communityId handle (h.apart (.community communityId) _ routeId hRoute hKept)
    · have hRivalKept : state.stock.kept (.task other) = some routeId := (kept_task hRival).trans hOther
      cases h.apart _ _ routeId hRivalKept hKept
      rfl
  ends order hOrder := by
    rw [released_shutdown]
    refine List.Nodup.append (List.nodup_reverse.mpr (hOrder.filterMap fun communityId other routeId hOne hTwo => ?_))
      h.once fun routeId hHeld hReleased => ?_
    · have hSame := h.apart (.community communityId) (.community other) routeId hOne hTwo
      cases hSame
      rfl
    · obtain ⟨communityId, -, hRoute⟩ := List.mem_filterMap.mp (List.mem_reverse.mp hHeld)
      exact (h.keptMade (.community communityId) routeId hRoute).2 hReleased

theorem sound_final (events : List (RouteEvent Blob)) : (final step initial events).stock.Sound :=
  (Along.of_forall (fun _ _ => trivial) _ _ : Along step (fun _ _ => True) initial events).invariant
    (fun state => state.stock.Sound) (fun _ event h _ => sound_step h event) sound_initial

/-- However the loops and the requests interleave, and whatever Veilid refuses. -/
theorem oneOwner_final (events : List (RouteEvent Blob)) : OneOwner (final step initial events) :=
  .of_sound (sound_final events)

end RouteServer

end Rekindle.Server.Routes
