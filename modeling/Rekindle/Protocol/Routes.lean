import Mathlib.Logic.Function.Basic
import Rekindle.Library.Runs
import Rekindle.Protocol.Records

/-! # The route cache

Three maps of `DHTManager`: from peers to their route blobs, from blobs to imported routes, and from
route ids back to peers. What an import returns and the time are inputs of an operation.
-/
namespace Rekindle.Protocol
set_option autoImplicit false

/-- In seconds. -/
def importedRouteTtl : Nat := 90

/-- Whole seconds between two instants in nanoseconds. -/
def elapsedSecs (since now : Nat) : Nat := (now - since) / 1000000000

structure RouteMaps (RouteId : Type) where
  routeCache : String → Option Bytes
  importedRoutes : Bytes → Option (RouteId × Nat)
  routeIdToPubkey : RouteId → Option String

namespace RouteMaps

variable {RouteId : Type}

/-- The maps of a new manager. -/
def empty : RouteMaps RouteId := ⟨fun _ => none, fun _ => none, fun _ => none⟩

variable [DecidableEq RouteId] (maps : RouteMaps RouteId)

def cacheRoute (pubkeyHex : String) (routeBlob : Bytes) (now : Nat) (imported : Except String RouteId) :
    RouteMaps RouteId :=
  if routeBlob = [] then maps else
    match imported with
    | .ok routeId => {
        importedRoutes := Function.update maps.importedRoutes routeBlob (some (routeId, now))
        routeIdToPubkey := Function.update maps.routeIdToPubkey routeId (some pubkeyHex)
        routeCache := Function.update maps.routeCache pubkeyHex (some routeBlob) }
    | .error _ => maps

omit [DecidableEq RouteId] in
def importRoute (routeBlob : Bytes) (now : Nat) : Except String RouteId → Except String RouteId × RouteMaps RouteId
  | .ok routeId => (.ok routeId,
      { maps with importedRoutes := Function.update maps.importedRoutes routeBlob (some (routeId, now)) })
  | .error e => (.error ("import: " ++ e), maps)

omit [DecidableEq RouteId] in
def getOrImportRoute (routeBlob : Bytes) (now : Nat) (imported : Except String RouteId) :
    Except String RouteId × RouteMaps RouteId :=
  match maps.importedRoutes routeBlob with
  | some (routeId, importedAt) =>
    if elapsedSecs importedAt now < importedRouteTtl then (.ok routeId, maps) else
      { maps with importedRoutes := Function.update maps.importedRoutes routeBlob none }.importRoute
        routeBlob now imported
  | none => maps.importRoute routeBlob now imported

omit [DecidableEq RouteId] in
def invalidateRouteBlob (routeBlob : Bytes) : RouteMaps RouteId :=
  { maps with importedRoutes := Function.update maps.importedRoutes routeBlob none }

/-- The body of the loop of `invalidate_dead_routes`. -/
def invalidateDeadRoute (maps : RouteMaps RouteId) (routeId : RouteId) : RouteMaps RouteId :=
  match maps.routeIdToPubkey routeId with
  | none => maps
  | some pubkey =>
    let maps := { maps with routeIdToPubkey := Function.update maps.routeIdToPubkey routeId none }
    match maps.routeCache pubkey with
    | none => maps
    | some blob => { maps with
        routeCache := Function.update maps.routeCache pubkey none
        importedRoutes := Function.update maps.importedRoutes blob none }

def retainImported (deadRoutes : List RouteId) : RouteMaps RouteId :=
  { maps with importedRoutes := fun blob => (maps.importedRoutes blob).filter fun entry => entry.1 ∉ deadRoutes }

def invalidateDeadRoutes (deadRoutes : List RouteId) : RouteMaps RouteId :=
  (deadRoutes.foldl invalidateDeadRoute maps).retainImported deadRoutes

def invalidateRouteForPeer (pubkeyHex : String) : RouteMaps RouteId :=
  match maps.routeCache pubkeyHex with
  | none => maps
  | some blob =>
    let maps := { maps with routeCache := Function.update maps.routeCache pubkeyHex none }
    match maps.importedRoutes blob with
    | none => maps
    | some (routeId, _) => { maps with
        importedRoutes := Function.update maps.importedRoutes blob none
        routeIdToPubkey := Function.update maps.routeIdToPubkey routeId none }

end RouteMaps

inductive RouteOp (RouteId : Type) where
  | cacheRoute (pubkeyHex : String) (routeBlob : Bytes) (now : Nat) (imported : Except String RouteId)
  | getOrImportRoute (routeBlob : Bytes) (now : Nat) (imported : Except String RouteId)
  | invalidateRouteBlob (routeBlob : Bytes)
  | invalidateRouteForPeer (pubkeyHex : String)
  | invalidateDeadRoutes (deadRoutes : List RouteId)

namespace RouteMaps

variable {RouteId : Type} [DecidableEq RouteId]

def apply (maps : RouteMaps RouteId) : RouteOp RouteId → RouteMaps RouteId
  | .cacheRoute pubkeyHex routeBlob now imported => maps.cacheRoute pubkeyHex routeBlob now imported
  | .getOrImportRoute routeBlob now imported => (maps.getOrImportRoute routeBlob now imported).2
  | .invalidateRouteBlob routeBlob => maps.invalidateRouteBlob routeBlob
  | .invalidateRouteForPeer pubkeyHex => maps.invalidateRouteForPeer pubkeyHex
  | .invalidateDeadRoutes deadRoutes => maps.invalidateDeadRoutes deadRoutes

omit [DecidableEq RouteId] in
/-- The route id that is cached for a peer at present: that of its blob. -/
def currentRoute (maps : RouteMaps RouteId) (pubkeyHex : String) : Option RouteId := do
  let blob ← maps.routeCache pubkeyHex
  let (routeId, _) ← maps.importedRoutes blob
  pure routeId

/-- Exactly the peers whose present route is dead lose it. -/
def DropsDead (maps : RouteMaps RouteId) (deadRoutes : List RouteId) : Prop :=
  ∀ pubkeyHex, (maps.invalidateDeadRoutes deadRoutes).routeCache pubkeyHex =
    if ∃ routeId ∈ deadRoutes, maps.currentRoute pubkeyHex = some routeId then none else maps.routeCache pubkeyHex

end RouteMaps

end Rekindle.Protocol
