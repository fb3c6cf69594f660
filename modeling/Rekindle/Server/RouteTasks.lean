import Mathlib.Logic.Function.Basic

/-! # The private routes of the server

Routes are numbered in the order in which Veilid makes them. A task runs from one await to the next, or
from one lock to the next; the network answers it in between. A `HashMap` yields its values in any order:
an event that collects communities brings the order.
-/
namespace Rekindle.Server.Routes
set_option autoImplicit false

/-- A route as `new_private_route` returns it. -/
structure RouteBlob (Blob : Type) where
  routeId : Nat
  blob : Blob
deriving DecidableEq

/-- The routes that Veilid has made, those that died, and those that were passed to
`release_private_route`, whose answer is ignored. -/
structure Network (Blob : Type) where
  allocated : List Blob
  dead : List Nat
  released : List Nat
deriving DecidableEq

/-- The fields of `HostedCommunity` for its route. -/
structure HostedRoute (Blob : Type) where
  dhtRecordKey : String
  routeId : Option Nat
  routeBlob : Option Blob
deriving DecidableEq

/-- The other loops collect the id and the key only. -/
structure KeepaliveData (Blob : Type) where
  communityId : String
  dhtKey : String
  routeBlob : Option Blob
deriving DecidableEq

/-- `rewrite_all_communities`, `handle_server_route_change`, and a round of `retry_failed_routes` that
is followed by so many others. -/
inductive Loop where
  | keepalive
  | routeChange
  | retry (roundsLeft : Nat)
deriving DecidableEq, Repr

/-- Where a loop is with one community: `opening`, `clearing` and `starting` come first. -/
inductive Stage (Blob : Type) where
  | opening
  | clearing
  | starting
  | taking
  | releasing (routeId : Nat)
  | allocating
  | allocated (route : RouteBlob Blob)
  | publishing (value : Option Blob)
deriving DecidableEq

/-- `setup_dht_and_route` and the insertion at the end of `host_community`. -/
inductive HostStage (Blob : Type) where
  | opening
  | allocating (dhtOpened : Bool)
  | publishing (route : RouteBlob Blob)
  | inserting (route : Option (RouteBlob Blob))
deriving DecidableEq

inductive Task (Blob : Type) where
  | refreshing (loop : Loop) (stage : Stage Blob) (entry : KeepaliveData Blob) (rest : List (KeepaliveData Blob))
  | sleeping (roundsLeft : Nat)
  | hosting (communityId dhtRecordKey : String) (stage : HostStage Blob)
  | unhosting (routeId : Nat)
deriving DecidableEq

/-- The keepalive loop, the dispatch loop and the retry task handle one thing at a time. The requests of the
IPC connections run side by side. -/
inductive TaskId where
  | keepalive
  | dispatch
  | retry
  | request (number : Nat)
deriving DecidableEq, Repr

/-- `published` has the value of `SUBKEY_SERVER_ROUTE` of each record. -/
structure RouteServer (Blob : Type) where
  network : Network Blob
  hosted : String → Option (HostedRoute Blob)
  published : String → Option Blob
  tasks : TaskId → Option (Task Blob)
  requests : Nat

/-- The rounds of `retry_failed_routes` after the first. -/
def laterRounds : Nat := 4

namespace Loop
variable {Blob : Type}

def firstStage : Loop → Stage Blob
  | .keepalive => .opening
  | .routeChange => .clearing
  | .retry _ => .starting

/-- The loop goes on with the communities that are left. -/
def next (loop : Loop) : List (KeepaliveData Blob) → Option (Task Blob)
  | entry :: rest => some (.refreshing loop loop.firstStage entry rest)
  | [] =>
    match loop with
    | .retry (roundsLeft + 1) => some (.sleeping roundsLeft)
    | _ => none

end Loop

namespace RouteServer
variable {Blob : Type} (state : RouteServer Blob)

/-- After the start of the retry task. -/
def initial : RouteServer Blob where
  network := { allocated := [], dead := [], released := [] }
  hosted _ := none
  published _ := none
  tasks
    | .retry => some (.sleeping laterRounds)
    | _ => none
  requests := 0

def setTask (handle : TaskId) (task : Option (Task Blob)) : RouteServer Blob :=
  { state with tasks := Function.update state.tasks handle task }

def setHosted (communityId : String) (community : Option (HostedRoute Blob)) : RouteServer Blob :=
  { state with hosted := Function.update state.hosted communityId community }

/-- What `get_mut` does when it finds the community. -/
def modify (communityId : String) (change : HostedRoute Blob → HostedRoute Blob) : RouteServer Blob :=
  state.setHosted communityId ((state.hosted communityId).map change)

def releasePrivateRoute (routeId : Nat) : RouteServer Blob :=
  { state with network := { state.network with released := routeId :: state.network.released } }

def newPrivateRoute (blob : Blob) : RouteServer Blob :=
  { state with network := { state.network with allocated := state.network.allocated ++ [blob] } }

/-- `set_value`, when there is a blob and the network takes it. -/
def publish (dhtKey : String) (value : Option Blob) (ok : Bool) : RouteServer Blob :=
  match value, ok with
  | some blob, true => { state with published := Function.update state.published dhtKey (some blob) }
  | _, _ => state

def collect (order : List String) (keep : HostedRoute Blob → Bool) : List (KeepaliveData Blob) :=
  order.filterMap fun communityId => (state.hosted communityId).bind fun community =>
    if keep community then
      some { communityId, dhtKey := community.dhtRecordKey, routeBlob := community.routeBlob }
    else none

def routeOf (communityId : String) : Option Nat := (state.hosted communityId).bind HostedRoute.routeId

/-! ### Tasks -/

/-- A section of a loop on one community. -/
def refresh (handle : TaskId) (loop : Loop) (stage : Stage Blob) (entry : KeepaliveData Blob)
    (rest : List (KeepaliveData Blob)) (ok : Bool) : RouteServer Blob :=
  let goTo stage := some (Task.refreshing loop stage entry rest)
  match stage with
  | .opening => state.setTask handle (if ok then goTo .taking else loop.next rest)
  | .starting => state.setTask handle (goTo .allocating)
  | .clearing =>
    (state.modify entry.communityId fun community => { community with routeId := none }).setTask handle
      (goTo .allocating)
  | .taking =>
    (state.modify entry.communityId fun community => { community with routeId := none }).setTask handle
      (match state.routeOf entry.communityId with
        | some oldRouteId => goTo (.releasing oldRouteId)
        | none => goTo .allocating)
  | .releasing routeId => (state.releasePrivateRoute routeId).setTask handle (goTo .allocating)
  | .allocating => state
  | .allocated route =>
    (state.modify entry.communityId fun community =>
      { community with routeId := some route.routeId, routeBlob := some route.blob }).setTask handle
      (goTo (.publishing (some route.blob)))
  | .publishing value => (state.publish entry.dhtKey value ok).setTask handle (loop.next rest)

/-- A section of `host_community`. -/
def hostSection (handle : TaskId) (communityId dhtRecordKey : String) (stage : HostStage Blob) (ok : Bool) :
    RouteServer Blob :=
  let goTo stage := some (Task.hosting communityId dhtRecordKey stage)
  match stage with
  | .opening => state.setTask handle (goTo (.allocating ok))
  | .allocating _ => state
  | .publishing route =>
    (state.publish dhtRecordKey (some route.blob) ok).setTask handle (goTo (.inserting (some route)))
  | .inserting route =>
    (state.setHosted communityId (some
      { dhtRecordKey, routeId := route.map RouteBlob.routeId, routeBlob := route.map RouteBlob.blob })).setTask
      handle none

def turn (handle : TaskId) (ok : Bool) : RouteServer Blob :=
  match state.tasks handle with
  | some (.refreshing loop stage entry rest) => state.refresh handle loop stage entry rest ok
  | some (.hosting communityId dhtRecordKey stage) => state.hostSection handle communityId dhtRecordKey stage ok
  | some (.unhosting routeId) => (state.releasePrivateRoute routeId).setTask handle none
  | some (.sleeping _) | none => state

/-- Veilid has made a route for a task that waits for one. -/
def allocates (handle : TaskId) (blob : Blob) : RouteServer Blob :=
  let route : RouteBlob Blob := { routeId := state.network.allocated.length, blob }
  match state.tasks handle with
  | some (.refreshing loop .allocating entry rest) =>
    (state.newPrivateRoute blob).setTask handle (some (.refreshing loop (.allocated route) entry rest))
  | some (.hosting communityId dhtRecordKey (.allocating dhtOpened)) =>
    (state.newPrivateRoute blob).setTask handle (some (.hosting communityId dhtRecordKey
      (if dhtOpened then .publishing route else .inserting (some route))))
  | _ => state

/-- Veilid makes no route. The keepalive falls back to the blob that it has collected. -/
def refuses (handle : TaskId) : RouteServer Blob :=
  match state.tasks handle with
  | some (.refreshing .keepalive .allocating entry rest) =>
    state.setTask handle (some (.refreshing .keepalive (.publishing entry.routeBlob) entry rest))
  | some (.refreshing .routeChange .allocating entry rest) =>
    (state.modify entry.communityId fun community =>
      { community with routeId := none, routeBlob := none }).setTask handle (Loop.routeChange.next rest)
  | some (.refreshing (.retry roundsLeft) .allocating _ rest) =>
    state.setTask handle ((Loop.retry roundsLeft).next rest)
  | some (.hosting communityId dhtRecordKey (.allocating _)) =>
    state.setTask handle (some (.hosting communityId dhtRecordKey (.inserting none)))
  | _ => state

/-! ### Starts -/

/-- A tick of `dht_keepalive_loop`. -/
def tick (order : List String) : RouteServer Blob :=
  match state.tasks .keepalive with
  | none => state.setTask .keepalive (Loop.keepalive.next (state.collect order fun _ => true))
  | some _ => state

def routesDie (routes : List Nat) : RouteServer Blob :=
  { state with network := { state.network with dead := routes ++ state.network.dead } }

/-- A report of dead routes to the dispatch loop. -/
def routeChange (deadRoutes : List Nat) (order : List String) : RouteServer Blob :=
  match state.tasks .dispatch with
  | none =>
    state.setTask .dispatch (Loop.routeChange.next
      (state.collect order fun community => community.routeId.any (· ∈ deadRoutes)))
  | some _ => state

/-- The retry task wakes up. It ends when every community has a route. -/
def wake (order : List String) : RouteServer Blob :=
  match state.tasks .retry with
  | some (.sleeping roundsLeft) =>
    match state.collect order fun community => community.routeBlob.isNone with
    | [] => state.setTask .retry none
    | entry :: rest => state.setTask .retry ((Loop.retry roundsLeft).next (entry :: rest))
  | _ => state

def spawn (task : Task Blob) : RouteServer Blob :=
  { state with requests := state.requests + 1 }.setTask (.request state.requests) (some task)

def host (communityId dhtRecordKey : String) : RouteServer Blob :=
  match state.hosted communityId with
  | none => state.spawn (.hosting communityId dhtRecordKey .opening)
  | some _ => state

def unhost (communityId : String) : RouteServer Blob :=
  match state.routeOf communityId with
  | some routeId => (state.setHosted communityId none).spawn (.unhosting routeId)
  | none => state.setHosted communityId none

/-- The end of `main` releases what the communities hold. -/
def shutdown (order : List String) : RouteServer Blob :=
  (order.filterMap state.routeOf).foldl RouteServer.releasePrivateRoute state

end RouteServer

inductive RouteEvent (Blob : Type) where
  | tick (order : List String)
  | routesDie (routes : List Nat)
  | routeChange (deadRoutes : List Nat) (order : List String)
  | wake (order : List String)
  | host (communityId dhtRecordKey : String)
  | unhost (communityId : String)
  | turn (handle : TaskId) (ok : Bool)
  | allocates (handle : TaskId) (blob : Blob)
  | refuses (handle : TaskId)

def RouteServer.step {Blob : Type} (state : RouteServer Blob) : RouteEvent Blob → RouteServer Blob
  | .tick order => state.tick order
  | .routesDie routes => state.routesDie routes
  | .routeChange deadRoutes order => state.routeChange deadRoutes order
  | .wake order => state.wake order
  | .host communityId dhtRecordKey => state.host communityId dhtRecordKey
  | .unhost communityId => state.unhost communityId
  | .turn handle ok => state.turn handle ok
  | .allocates handle blob => state.allocates handle blob
  | .refuses handle => state.refuses handle

end Rekindle.Server.Routes
