import Rekindle.Protocol.Routes

/-! # Routes that lead back to their peers

The invalidation of dead routes goes from a route id to a peer, and from the peer to the blob. It is
exact as long as the two maps from peers to route ids and back agree.
-/
namespace Rekindle.Protocol
set_option autoImplicit false

open Runs

namespace RouteMaps

variable {RouteId : Type}

/-- The id of the route that a blob was imported as. -/
def importedId (maps : RouteMaps RouteId) (routeBlob : Bytes) : Option RouteId :=
  (maps.importedRoutes routeBlob).map Prod.fst

theorem currentRoute_of_cached {maps : RouteMaps RouteId} {pubkeyHex : String} {blob : Bytes}
    (hCached : maps.routeCache pubkeyHex = some blob) : maps.currentRoute pubkeyHex = maps.importedId blob := by
  simp only [currentRoute, hCached, importedId, Option.bind_eq_bind, Option.bind_some]
  cases maps.importedRoutes blob <;> rfl

/-- A route id leads back to a peer with a cached route exactly if it is the id of that route. -/
def Agrees (maps : RouteMaps RouteId) : Prop :=
  ∀ pubkeyHex blob, maps.routeCache pubkeyHex = some blob →
    ∀ routeId, maps.routeIdToPubkey routeId = some pubkeyHex ↔ maps.importedId blob = some routeId

theorem agrees_empty : (empty : RouteMaps RouteId).Agrees := by
  intro _ _ hCached
  cases hCached

/-- Two peers with cached routes that have been imported have different blobs. -/
theorem Agrees.blob_unique {maps : RouteMaps RouteId} (h : maps.Agrees) {peer other : String} {blob : Bytes}
    (hPeer : maps.routeCache peer = some blob) (hOther : maps.routeCache other = some blob)
    {routeId : RouteId} (hImported : maps.importedId blob = some routeId) : other = peer := by
  have hBack := (h peer blob hPeer routeId).mpr hImported
  have hBack' := (h other blob hOther routeId).mpr hImported
  exact Option.some.inj (hBack'.symm.trans hBack)

/-- What the operation finds in the maps when it keeps them in agreement. A route is cached for a peer
under the one id that leads back to it, and for nobody else. A blob that is cached for a peer is
imported again as the route that it was, and its import is not forgotten. -/
def Tidy (maps : RouteMaps RouteId) : RouteOp RouteId → Prop
  | .cacheRoute pubkeyHex routeBlob _ (.ok routeId) => routeBlob ≠ [] →
      (∀ other, maps.routeIdToPubkey other = some pubkeyHex → other = routeId) ∧
      ∀ peer, peer ≠ pubkeyHex → maps.routeCache peer ≠ some routeBlob ∧
        (maps.routeIdToPubkey routeId = some peer → maps.routeCache peer = none)
  | .getOrImportRoute routeBlob now imported => ∀ peer, maps.routeCache peer = some routeBlob →
      match maps.importedRoutes routeBlob with
      | some (routeId, importedAt) => elapsedSecs importedAt now < importedRouteTtl ∨ imported = .ok routeId
      | none => ∀ routeId, imported ≠ .ok routeId
  | .invalidateRouteBlob routeBlob => ∀ peer, maps.routeCache peer = some routeBlob →
      maps.importedRoutes routeBlob = none
  | _ => True

variable [DecidableEq RouteId] {maps : RouteMaps RouteId}

/-! ## Dead routes -/

theorem invalidateDeadRoute_routeIdToPubkey (maps : RouteMaps RouteId) (dead routeId : RouteId) :
    (maps.invalidateDeadRoute dead).routeIdToPubkey routeId =
      if routeId = dead then none else maps.routeIdToPubkey routeId := by
  unfold invalidateDeadRoute
  by_cases hSame : routeId = dead
  · subst hSame
    cases hBack : maps.routeIdToPubkey routeId with
    | none => simp [hBack]
    | some pubkey => cases hCached : maps.routeCache pubkey <;> simp [hCached]
  · cases hBack : maps.routeIdToPubkey dead with
    | none => simp [hSame]
    | some pubkey => cases hCached : maps.routeCache pubkey <;> simp [hCached, hSame]

theorem invalidateDeadRoute_routeCache (maps : RouteMaps RouteId) (dead : RouteId) (pubkeyHex : String) :
    (maps.invalidateDeadRoute dead).routeCache pubkeyHex =
      if maps.routeIdToPubkey dead = some pubkeyHex then none else maps.routeCache pubkeyHex := by
  unfold invalidateDeadRoute
  cases hBack : maps.routeIdToPubkey dead with
  | none => simp
  | some pubkey =>
    by_cases hSame : pubkeyHex = pubkey
    · subst hSame
      cases hCached : maps.routeCache pubkeyHex <;> simp [hCached]
    · have hOther : ¬some pubkey = some pubkeyHex := fun h => hSame (Option.some.inj h).symm
      cases hCached : maps.routeCache pubkey <;> simp [hCached, hSame, Ne.symm hSame]

theorem foldl_routeCache (deadRoutes : List RouteId) (pubkeyHex : String) :
    (deadRoutes.foldl invalidateDeadRoute maps).routeCache pubkeyHex =
      if ∃ routeId ∈ deadRoutes, maps.routeIdToPubkey routeId = some pubkeyHex then none
      else maps.routeCache pubkeyHex := by
  induction deadRoutes generalizing maps with
  | nil => simp
  | cons dead rest ih =>
    rw [List.foldl_cons, ih, invalidateDeadRoute_routeCache]
    by_cases hDead : maps.routeIdToPubkey dead = some pubkeyHex
    · simp [hDead]
    · have hRest : (∃ routeId ∈ rest, (maps.invalidateDeadRoute dead).routeIdToPubkey routeId = some pubkeyHex) ↔
          ∃ routeId ∈ rest, maps.routeIdToPubkey routeId = some pubkeyHex := by
        refine exists_congr fun routeId => and_congr_right fun _ => ?_
        rw [invalidateDeadRoute_routeIdToPubkey]
        by_cases hSame : routeId = dead
        · simp [hSame, hDead]
        · rw [if_neg hSame]
      simp only [hRest, hDead, if_false, List.mem_cons, exists_eq_or_imp, false_or]

theorem foldl_routeIdToPubkey {deadRoutes : List RouteId} {routeId : RouteId} (h : routeId ∈ deadRoutes) :
    (deadRoutes.foldl invalidateDeadRoute maps).routeIdToPubkey routeId = none := by
  have hKept (rest : List RouteId) : ∀ maps : RouteMaps RouteId, maps.routeIdToPubkey routeId = none →
      (rest.foldl invalidateDeadRoute maps).routeIdToPubkey routeId = none := by
    induction rest with
    | nil => exact fun _ hNone => hNone
    | cons dead rest ih =>
      intro maps hNone
      refine ih _ ?_
      rw [invalidateDeadRoute_routeIdToPubkey, hNone, ite_self]
  obtain ⟨before, rest, rfl⟩ := List.append_of_mem h
  rw [List.foldl_append, List.foldl_cons]
  refine hKept rest _ ?_
  rw [invalidateDeadRoute_routeIdToPubkey, if_pos rfl]

theorem Agrees.invalidateDeadRoute (h : maps.Agrees) (dead : RouteId) : (maps.invalidateDeadRoute dead).Agrees := by
  intro peer blob hCached routeId
  rw [invalidateDeadRoute_routeCache] at hCached
  by_cases hLost : maps.routeIdToPubkey dead = some peer
  · rw [if_pos hLost] at hCached
    cases hCached
  · rw [if_neg hLost] at hCached
    have hImported : (maps.invalidateDeadRoute dead).importedId blob = maps.importedId blob := by
      unfold RouteMaps.invalidateDeadRoute
      cases hBack : maps.routeIdToPubkey dead with
      | none => rfl
      | some other =>
        cases hOther : maps.routeCache other with
        | none => simp [hOther, importedId]
        | some lost =>
          have hNe : blob ≠ lost := by
            rintro rfl
            have hSame := h.blob_unique hOther hCached ((h other blob hOther dead).mp hBack)
            exact hLost (hSame ▸ hBack)
          simp [hOther, importedId, Function.update_of_ne hNe]
    rw [hImported, ← h peer blob hCached routeId, invalidateDeadRoute_routeIdToPubkey]
    by_cases hSame : routeId = dead
    · simp [hSame, hLost]
    · rw [if_neg hSame]

theorem Agrees.foldl (h : maps.Agrees) (deadRoutes : List RouteId) :
    (deadRoutes.foldl RouteMaps.invalidateDeadRoute maps).Agrees := by
  induction deadRoutes generalizing maps with
  | nil => exact h
  | cons dead rest ih => exact ih (h.invalidateDeadRoute dead)

theorem Agrees.invalidateDeadRoutes (h : maps.Agrees) (deadRoutes : List RouteId) :
    (maps.invalidateDeadRoutes deadRoutes).Agrees := by
  intro peer blob hCached routeId
  have hFolded := h.foldl deadRoutes peer blob hCached
  refine (hFolded routeId).trans ?_
  -- an import that is swept out now has an id that leads nowhere any more
  have hSwept : (maps.invalidateDeadRoutes deadRoutes).importedId blob =
      (deadRoutes.foldl RouteMaps.invalidateDeadRoute maps).importedId blob := by
    cases hImported : (deadRoutes.foldl RouteMaps.invalidateDeadRoute maps).importedRoutes blob with
    | none => simp [importedId, RouteMaps.invalidateDeadRoutes, retainImported, hImported]
    | some entry =>
      obtain ⟨swept, importedAt⟩ := entry
      have hBack := (hFolded swept).mpr (by simp [importedId, hImported])
      have hAlive : swept ∉ deadRoutes := by
        intro hDead
        rw [foldl_routeIdToPubkey hDead] at hBack
        cases hBack
      simp [importedId, RouteMaps.invalidateDeadRoutes, retainImported, hImported, hAlive]
  rw [hSwept]

/-- The invalidation is exact, whatever routes die, if and only if the maps agree. -/
theorem agrees_iff : maps.Agrees ↔ ∀ deadRoutes, maps.DropsDead deadRoutes := by
  have hDrops (deadRoutes : List RouteId) (peer : String) :
      (maps.invalidateDeadRoutes deadRoutes).routeCache peer =
        if ∃ routeId ∈ deadRoutes, maps.routeIdToPubkey routeId = some peer then none
        else maps.routeCache peer := foldl_routeCache deadRoutes peer
  constructor
  · intro hAgrees deadRoutes peer
    rw [hDrops]
    cases hCached : maps.routeCache peer with
    | none => simp
    | some blob => simp only [hAgrees peer blob hCached, currentRoute_of_cached hCached]
  · intro hExact peer blob hCached routeId
    have hDead := hExact [routeId] peer
    rw [hDrops, currentRoute_of_cached hCached, hCached] at hDead
    simp only [List.mem_singleton, exists_eq_left] at hDead
    by_cases hBack : maps.routeIdToPubkey routeId = some peer <;>
      by_cases hImported : maps.importedId blob = some routeId <;>
      simp [hBack, hImported] at hDead ⊢

/-! ## One step -/

theorem agrees_cacheRoute_iff (h : maps.Agrees) {pubkeyHex : String} {routeBlob : Bytes} (now : Nat)
    (imported : Except String RouteId) :
    (maps.cacheRoute pubkeyHex routeBlob now imported).Agrees ↔
      maps.Tidy (.cacheRoute pubkeyHex routeBlob now imported) := by
  cases imported with
  | error e =>
    have hSame : maps.cacheRoute pubkeyHex routeBlob now (.error e) = maps := by
      simp [cacheRoute]
    rw [hSame]
    exact iff_of_true h trivial
  | ok routeId =>
    by_cases hEmpty : routeBlob = []
    · have hSame : maps.cacheRoute pubkeyHex routeBlob now (.ok routeId) = maps := by
        simp [cacheRoute, hEmpty]
      rw [hSame]
      exact iff_of_true h fun hBlob => absurd hEmpty hBlob
    have hCached (peer : String) : (maps.cacheRoute pubkeyHex routeBlob now (.ok routeId)).routeCache peer =
        if peer = pubkeyHex then some routeBlob else maps.routeCache peer := by
      simp [cacheRoute, hEmpty, Function.update_apply]
    have hBack (other : RouteId) : (maps.cacheRoute pubkeyHex routeBlob now (.ok routeId)).routeIdToPubkey other =
        if other = routeId then some pubkeyHex else maps.routeIdToPubkey other := by
      simp [cacheRoute, hEmpty, Function.update_apply]
    have hImported (blob : Bytes) : (maps.cacheRoute pubkeyHex routeBlob now (.ok routeId)).importedId blob =
        if blob = routeBlob then some routeId else maps.importedId blob := by
      by_cases hBlob : blob = routeBlob <;> simp [cacheRoute, hEmpty, importedId, hBlob]
    constructor
    · intro hAfter _
      refine ⟨fun other hOther => ?_, fun peer hPeer => ⟨fun hShared => ?_, fun hTaken => ?_⟩⟩
      · by_contra hNe
        have hLeads := (hAfter pubkeyHex routeBlob (by simp [hCached]) other).mp (by simp [hBack, hNe, hOther])
        rw [hImported, if_pos rfl] at hLeads
        exact hNe (Option.some.inj hLeads).symm
      · have hLeads := (hAfter peer routeBlob (by simp [hCached, hPeer, hShared]) routeId).mpr (by simp [hImported])
        rw [hBack, if_pos rfl] at hLeads
        exact hPeer (Option.some.inj hLeads).symm
      · cases hHas : maps.routeCache peer with
        | none => rfl
        | some blob =>
          exfalso
          have hOld := (h peer blob hHas routeId).mp hTaken
          have hLeads := (hAfter peer blob (by simp [hCached, hPeer, hHas]) routeId).mpr (by
            rw [hImported]
            split
            · rfl
            · exact hOld)
          rw [hBack, if_pos rfl] at hLeads
          exact hPeer (Option.some.inj hLeads).symm
    · intro hTidy peer blob hPeer other
      obtain ⟨hOnly, hOthers⟩ := hTidy hEmpty
      rw [hCached] at hPeer
      rw [hBack, hImported]
      by_cases hSelf : peer = pubkeyHex
      · subst hSelf
        rw [if_pos rfl] at hPeer
        obtain rfl := Option.some.inj hPeer
        rw [if_pos rfl]
        by_cases hOther : other = routeId
        · simp [hOther]
        · rw [if_neg hOther]
          exact iff_of_false (fun hLeads => hOther (hOnly other hLeads)) fun hId => hOther (Option.some.inj hId).symm
      · rw [if_neg hSelf] at hPeer
        obtain ⟨hShared, hTaken⟩ := hOthers peer hSelf
        have hBlob : blob ≠ routeBlob := by
          rintro rfl
          exact hShared hPeer
        rw [if_neg hBlob]
        by_cases hOther : other = routeId
        · subst hOther
          rw [if_pos rfl]
          refine iff_of_false (fun hLeads => hSelf (Option.some.inj hLeads).symm) fun hId => ?_
          have hNone := hTaken ((h peer blob hPeer other).mpr hId)
          rw [hPeer] at hNone
          cases hNone
        · rw [if_neg hOther]
          exact h peer blob hPeer other

omit [DecidableEq RouteId] in
/-- Only the import of one blob has changed. -/
theorem agrees_iff_of_imported (h : maps.Agrees) {after : RouteMaps RouteId} {routeBlob : Bytes}
    (hCached : after.routeCache = maps.routeCache) (hBack : after.routeIdToPubkey = maps.routeIdToPubkey)
    (hImported : ∀ blob, blob ≠ routeBlob → after.importedId blob = maps.importedId blob) :
    after.Agrees ↔ ∀ peer, maps.routeCache peer = some routeBlob →
      after.importedId routeBlob = maps.importedId routeBlob := by
  unfold Agrees
  rw [hCached, hBack]
  constructor
  · intro hAfter peer hPeer
    apply Option.ext
    intro routeId
    exact (hAfter peer routeBlob hPeer routeId).symm.trans (h peer routeBlob hPeer routeId)
  · intro hSame peer blob hPeer routeId
    by_cases hBlob : blob = routeBlob
    · subst hBlob
      rw [hSame peer hPeer]
      exact h peer blob hPeer routeId
    · rw [hImported blob hBlob]
      exact h peer blob hPeer routeId

omit [DecidableEq RouteId] in
theorem importRoute_maps (maps : RouteMaps RouteId) (routeBlob : Bytes) (now : Nat)
    (imported : Except String RouteId) :
    (maps.importRoute routeBlob now imported).2.routeCache = maps.routeCache ∧
      (maps.importRoute routeBlob now imported).2.routeIdToPubkey = maps.routeIdToPubkey ∧
      ∀ blob, (maps.importRoute routeBlob now imported).2.importedId blob =
        if blob = routeBlob then imported.toOption.or (maps.importedId blob) else maps.importedId blob := by
  cases imported with
  | ok routeId =>
    refine ⟨rfl, rfl, fun blob => ?_⟩
    by_cases hBlob : blob = routeBlob <;> simp [importRoute, importedId, hBlob, Except.toOption]
  | error e =>
    refine ⟨rfl, rfl, fun blob => ?_⟩
    simp [importRoute, importedId, Except.toOption]

omit [DecidableEq RouteId] in
theorem agrees_getOrImportRoute_iff (h : maps.Agrees) {routeBlob : Bytes} (now : Nat)
    (imported : Except String RouteId) :
    (maps.getOrImportRoute routeBlob now imported).2.Agrees ↔
      maps.Tidy (.getOrImportRoute routeBlob now imported) := by
  unfold getOrImportRoute
  simp only [Tidy]
  cases hImported : maps.importedRoutes routeBlob with
  | none =>
    obtain ⟨hCached, hBack, hIds⟩ := importRoute_maps maps routeBlob now imported
    refine (agrees_iff_of_imported h hCached hBack fun blob hBlob => by rw [hIds, if_neg hBlob]).trans ?_
    refine forall_congr' fun peer => imp_congr_right fun _ => ?_
    rw [hIds, if_pos rfl, importedId, hImported]
    cases imported <;> simp [Except.toOption]
  | some entry =>
    obtain ⟨routeId, importedAt⟩ := entry
    simp only
    by_cases hFresh : elapsedSecs importedAt now < importedRouteTtl
    · rw [if_pos hFresh]
      exact iff_of_true h fun _ _ => .inl hFresh
    · rw [if_neg hFresh]
      let forgotten : RouteMaps RouteId :=
        { maps with importedRoutes := Function.update maps.importedRoutes routeBlob none }
      obtain ⟨hCached, hBack, hIds⟩ := importRoute_maps forgotten routeBlob now imported
      have hOthers (blob : Bytes) (hBlob : blob ≠ routeBlob) :
          (forgotten.importRoute routeBlob now imported).2.importedId blob = maps.importedId blob := by
        rw [hIds, if_neg hBlob]
        simp [forgotten, importedId, hBlob]
      refine (agrees_iff_of_imported h hCached hBack hOthers).trans ?_
      refine forall_congr' fun peer => imp_congr_right fun _ => ?_
      rw [hIds, if_pos rfl, importedId, importedId, hImported]
      cases imported <;> simp [forgotten, Except.toOption, hFresh]

omit [DecidableEq RouteId] in
theorem agrees_invalidateRouteBlob_iff (h : maps.Agrees) (routeBlob : Bytes) :
    (maps.invalidateRouteBlob routeBlob).Agrees ↔ maps.Tidy (.invalidateRouteBlob routeBlob) := by
  have hOthers (blob : Bytes) (hBlob : blob ≠ routeBlob) :
      (maps.invalidateRouteBlob routeBlob).importedId blob = maps.importedId blob := by
    simp [invalidateRouteBlob, importedId, hBlob]
  have hCached : (maps.invalidateRouteBlob routeBlob).routeCache = maps.routeCache := rfl
  refine (agrees_iff_of_imported h hCached rfl hOthers).trans ?_
  refine forall_congr' fun peer => imp_congr_right fun _ => ?_
  cases hImported : maps.importedRoutes routeBlob <;> simp [invalidateRouteBlob, importedId, hImported]

theorem Agrees.invalidateRouteForPeer (h : maps.Agrees) (pubkeyHex : String) :
    (maps.invalidateRouteForPeer pubkeyHex).Agrees := by
  unfold RouteMaps.invalidateRouteForPeer
  cases hCached : maps.routeCache pubkeyHex with
  | none => exact h
  | some blob =>
    simp only
    have hKept {peer : String} {other : Bytes}
        (hPeer : Function.update maps.routeCache pubkeyHex none peer = some other) :
        peer ≠ pubkeyHex ∧ maps.routeCache peer = some other := by
      have hNe : peer ≠ pubkeyHex := by
        rintro rfl
        rw [Function.update_self] at hPeer
        cases hPeer
      rw [Function.update_of_ne hNe] at hPeer
      exact ⟨hNe, hPeer⟩
    cases hImported : maps.importedRoutes blob with
    | none =>
      intro peer other hPeer
      exact h peer other (hKept hPeer).2
    | some entry =>
      intro peer other hPeer routeId
      obtain ⟨hNe, hStill⟩ := hKept hPeer
      have hId : maps.importedId blob = some entry.1 := by rw [importedId, hImported, Option.map_some]
      have hBack : maps.routeIdToPubkey entry.1 = some pubkeyHex := (h pubkeyHex blob hCached entry.1).mpr hId
      have hBlob : other ≠ blob := by
        rintro rfl
        exact hNe (h.blob_unique hCached hStill hId)
      have hSame : maps.routeIdToPubkey routeId = some peer ↔
          Function.update maps.routeIdToPubkey entry.1 none routeId = some peer := by
        by_cases hRoute : routeId = entry.1
        · rw [hRoute, hBack, Function.update_self]
          simp [Ne.symm hNe]
        · rw [Function.update_of_ne hRoute]
      refine hSame.symm.trans ((h peer other hStill routeId).trans ?_)
      simp [importedId, hBlob]

/-- From maps that agree, an operation leads to maps that agree exactly if it is a tidy one. -/
theorem agrees_apply_iff (h : maps.Agrees) (op : RouteOp RouteId) : (maps.apply op).Agrees ↔ maps.Tidy op := by
  cases op with
  | cacheRoute pubkeyHex routeBlob now imported => exact agrees_cacheRoute_iff h now imported
  | getOrImportRoute routeBlob now imported => exact agrees_getOrImportRoute_iff h now imported
  | invalidateRouteBlob routeBlob => exact agrees_invalidateRouteBlob_iff h routeBlob
  | invalidateRouteForPeer pubkeyHex => exact iff_of_true (h.invalidateRouteForPeer pubkeyHex) trivial
  | invalidateDeadRoutes deadRoutes => exact iff_of_true (h.invalidateDeadRoutes deadRoutes) trivial

/-- In every run from empty maps: whatever routes die after whichever operation, the invalidation is
exact, if and only if every operation is a tidy one. -/
theorem drops_dead_iff_tidy (ops : List (RouteOp RouteId)) :
    Along apply (fun maps op => ∀ deadRoutes, (maps.apply op).DropsDead deadRoutes) empty ops ↔
      Along apply Tidy empty ops := by
  refine Along.congr_of_kept Agrees (fun maps op hAgrees => ?_) (fun maps op _ hExact => ?_) agrees_empty ops
  · exact agrees_iff.symm.trans (agrees_apply_iff hAgrees op)
  · exact agrees_iff.mpr hExact

/-- The maps after a peer has published a second route. -/
def republished : RouteMaps Nat :=
  (empty.apply (.cacheRoute "bob" [1] 0 (.ok 1))).apply (.cacheRoute "bob" [2] 0 (.ok 2))

/-- The first route of the peer dies, and the peer loses the second one. -/
theorem republished_route_lost : republished.currentRoute "bob" = some 2 ∧
    (republished.invalidateDeadRoutes [1]).routeCache "bob" = none ∧ ¬republished.DropsDead [1] := by
  have hCurrent : republished.currentRoute "bob" = some 2 := by decide
  have hLost : (republished.invalidateDeadRoutes [1]).routeCache "bob" = none := by decide
  have hCached : republished.routeCache "bob" = some [2] := by decide
  refine ⟨hCurrent, hLost, fun hExact => ?_⟩
  have hKept := hExact "bob"
  rw [hCurrent, hLost, if_neg (by decide), hCached] at hKept
  cases hKept

end RouteMaps

end Rekindle.Protocol
