import Mathlib.Logic.Function.Basic
import Rekindle.Library.Custody
import Rekindle.Library.Runs

/-! # The private route of the client

Routes are numbered in the order in which Veilid makes them. An operation runs from one await to the
next, or from one lock to the next; the network answers it in between.
-/
namespace Rekindle.Client
set_option autoImplicit false

/-- A route as `new_private_route` returns it. -/
structure RouteBlob (Blob : Type) where
  routeId : Nat
  blob : Blob
deriving DecidableEq

/-- The private routes that Veilid has made for the node: the blob of each, those that died, and those
that were released. -/
structure RouteNetwork (Blob : Type) where
  allocated : List Blob
  dead : List Nat
  released : List Nat
deriving DecidableEq

structure RoutingManager (Blob : Type) where
  privateRouteId : Option Nat
  privateRouteBlob : Option Blob
deriving DecidableEq

/-- The fields of `NodeHandle` that an operation reads. Of the keys it matters whether they are set. -/
structure RouteNodeHandle (Blob : Type) where
  routeBlob : Option Blob
  hasProfileDhtKey : Bool
  hasMailboxDhtKey : Bool
deriving DecidableEq

/-- `spawn_dht_publish` of a login, the periodic `reallocate_private_route`, and `handle_route_change`. -/
inductive RouteOperation where
  | spawnDhtPublish
  | reallocate
  | routeChange
deriving DecidableEq, Repr

inductive RouteRecord where
  | profile
  | mailbox
deriving DecidableEq, Repr

/-- Where an operation is. `storing` is between the routing manager and the node handle. The two
publications have the blob to write, and whether the key of the record was set. -/
inductive RouteStage (Blob : Type) where
  | waiting
  | noticed
  | allocating (attempt : Nat)
  | allocated (route : RouteBlob Blob)
  | storing (route : RouteBlob Blob)
  | publishing (first : Bool) (value : Option Blob) (writable : Bool)
deriving DecidableEq

structure RouteTask (Blob : Type) where
  operation : RouteOperation
  stage : RouteStage Blob
  aborted : Bool
deriving DecidableEq

/-- `logout_cleanup` before it releases the route, and before it clears the node handle. -/
inductive RouteLogout where
  | closing
  | released
deriving DecidableEq, Repr

structure RouteState (Blob : Type) where
  network : RouteNetwork Blob
  manager : RoutingManager Blob
  node : RouteNodeHandle Blob
  profile : Option Blob
  mailbox : Option Blob
  loggedIn : Bool
  refreshLoop : Bool
  logout : Option RouteLogout
  spawned : Nat
  tasks : Nat → Option (RouteTask Blob)

/-- The attempts of `allocate_route_with_retry`. -/
def maxRouteAttempts : Nat := 15

namespace RouteTask
variable {Blob : Type} (task : RouteTask Blob)

def goTo (stage : RouteStage Blob) : RouteTask Blob := { task with stage }

/-- An aborted task ends at its next await. There is none between the manager and the node handle. -/
def dropped : Bool :=
  task.aborted &&
    match task.stage with
    | .storing _ => false
    | _ => true

/-- The tasks of a session are aborted at its end. A route change is handled by the dispatch loop. -/
def abort : RouteTask Blob := { task with aborted := task.operation != .routeChange }

/-- The record that the first or the second publication of an operation writes. -/
def record (first : Bool) : RouteRecord :=
  match task.operation, first with
  | .spawnDhtPublish, true => .mailbox
  | .spawnDhtPublish, false => .profile
  | _, true => .profile
  | _, false => .mailbox

end RouteTask

namespace RouteState
variable {Blob : Type} (state : RouteState Blob)

/-- After `initialize_node`. -/
def initial : RouteState Blob where
  network := { allocated := [], dead := [], released := [] }
  manager := { privateRouteId := none, privateRouteBlob := none }
  node := { routeBlob := none, hasProfileDhtKey := false, hasMailboxDhtKey := false }
  profile := none
  mailbox := none
  loggedIn := false
  refreshLoop := false
  logout := none
  spawned := 0
  tasks _ := none

/-! ### The routing manager -/

/-- `release_private_route`. Veilid refuses to release a route that is dead. -/
def releasePrivateRoute (ok : Bool) : RouteState Blob :=
  match state.manager.privateRouteId with
  | none => { state with manager := { privateRouteId := none, privateRouteBlob := none } }
  | some routeId =>
    if ok && routeId ∉ state.network.dead then
      { state with
        manager := { privateRouteId := none, privateRouteBlob := none }
        network := { state.network with released := routeId :: state.network.released } }
    else { state with manager := { state.manager with privateRouteId := none } }

def forgetPrivateRoute : RouteState Blob :=
  { state with manager := { privateRouteId := none, privateRouteBlob := none } }

def setAllocatedRoute (route : RouteBlob Blob) : RouteState Blob :=
  { state with manager := { privateRouteId := some route.routeId, privateRouteBlob := some route.blob } }

/-! ### Tasks -/

def spawn (operation : RouteOperation) (stage : RouteStage Blob) : RouteState Blob :=
  { state with
    spawned := state.spawned + 1
    tasks := Function.update state.tasks state.spawned (some { operation, stage, aborted := false }) }

def setTask (handle : Nat) (task : Option (RouteTask Blob)) : RouteState Blob :=
  { state with tasks := Function.update state.tasks handle task }

def running (operation : RouteOperation) : Bool :=
  (List.range state.spawned).any fun handle =>
    (state.tasks handle).any fun task => task.operation == operation && !task.aborted

/-- What an answered publication does. A mailbox without a route to write is opened all the same. -/
def publish (record : RouteRecord) (value : Option Blob) : RouteState Blob :=
  match record, value with
  | .profile, value => { state with profile := value }
  | .mailbox, none => state
  | .mailbox, some blob => { state with mailbox := some blob }

/-- A login remembers the record that it published. -/
def noteRecord (operation : RouteOperation) (record : RouteRecord) : RouteState Blob :=
  match operation, record with
  | .spawnDhtPublish, .profile => { state with node := { state.node with hasProfileDhtKey := true } }
  | .spawnDhtPublish, .mailbox => { state with node := { state.node with hasMailboxDhtKey := true } }
  | _, _ => state

def tryPublish (task : RouteTask Blob) (first : Bool) (value : Option Blob) (written : Bool) : RouteState Blob :=
  if written then (state.publish (task.record first) value).noteRecord task.operation (task.record first)
  else state

/-- The second publication: a login reads the blob of the node handle again, and has the key. -/
def secondPublication (task : RouteTask Blob) (value : Option Blob) : RouteStage Blob :=
  match task.operation with
  | .spawnDhtPublish => .publishing false state.node.routeBlob true
  | _ => .publishing false value state.node.hasMailboxDhtKey

/-- The first publication after the blob is in the node handle. -/
def firstPublication (task : RouteTask Blob) (blob : Blob) : RouteStage Blob :=
  match task.operation with
  | .spawnDhtPublish => .publishing true (some blob) true
  | _ => .publishing true (some blob) state.node.hasProfileDhtKey

def storeRoute (task : RouteTask Blob) (route : RouteBlob Blob) (ok : Bool) : RouteState Blob :=
  match task.operation with
  | .reallocate => (state.releasePrivateRoute ok).setAllocatedRoute route
  | _ => state.setAllocatedRoute route

def storeBlob (route : RouteBlob Blob) : RouteState Blob :=
  { state with node := { state.node with routeBlob := some route.blob } }

/-- The next section of a task. `ok` is what the release or the publication in it comes to, or whether
the network became ready. -/
def advance (handle : Nat) (task : RouteTask Blob) (ok : Bool) : RouteState Blob :=
  if task.dropped then state.setTask handle none
  else
    match task.stage with
    | .waiting => state.setTask handle (if ok then some (task.goTo (.allocating 1)) else none)
    | .noticed => state.forgetPrivateRoute.setTask handle (some (task.goTo (.allocating 1)))
    | .allocating _ => state
    | .allocated route => (state.storeRoute task route ok).setTask handle (some (task.goTo (.storing route)))
    | .storing route =>
      (state.storeBlob route).setTask handle
        (if task.aborted then none else some (task.goTo (state.firstPublication task route.blob)))
    | .publishing true value writable =>
      let published := state.tryPublish task true value (writable && ok)
      published.setTask handle (some (task.goTo (published.secondPublication task value)))
    | .publishing false value writable =>
      (state.tryPublish task false value (writable && ok)).setTask handle none

/-- Veilid has made a route for a task that waits for one. -/
def allocates (handle : Nat) (blob : Blob) : RouteState Blob :=
  match state.tasks handle with
  | some task =>
    match task.stage with
    | .allocating _ =>
      { state with network := { state.network with allocated := state.network.allocated ++ [blob] } }.setTask handle
        (some (task.goTo (.allocated { routeId := state.network.allocated.length, blob })))
    | _ => state
  | none => state

/-- Veilid makes no route. A login tries again, and publishes without a route in the end. -/
def refuses (handle : Nat) : RouteState Blob :=
  match state.tasks handle with
  | some task =>
    match task.stage with
    | .allocating attempt =>
      state.setTask handle
        (if task.operation = .spawnDhtPublish ∧ task.aborted = false then
          if attempt < maxRouteAttempts then some (task.goTo (.allocating (attempt + 1)))
          else some (task.goTo (.publishing true none true))
        else none)
    | _ => state
  | none => state

def turn (handle : Nat) (ok : Bool) : RouteState Blob :=
  match state.tasks handle with
  | some task => state.advance handle task ok
  | none => state

/-! ### Sessions -/

def login : RouteState Blob :=
  if state.loggedIn || state.logout.isSome then state
  else { state with loggedIn := true, refreshLoop := true }.spawn .spawnDhtPublish .waiting

/-- A tick of `route_refresh_loop`, which waits for the operation that it started. -/
def refresh : RouteState Blob :=
  if state.refreshLoop && state.node.routeBlob.isSome && !state.running .reallocate then
    state.spawn .reallocate (.allocating 1)
  else state

def routesDie (routes : List Nat) : RouteState Blob :=
  { state with network := { state.network with dead := routes ++ state.network.dead } }

/-- A report of dead routes. The dispatch loop handles one at a time. -/
def routeChange (deadRoutes : List Nat) : RouteState Blob :=
  if !state.running .routeChange && state.manager.privateRouteId.any (· ∈ deadRoutes) then
    state.spawn .routeChange .noticed
  else state

def beginLogout : RouteState Blob :=
  if state.loggedIn && state.logout.isNone then
    { state with
      refreshLoop := false
      logout := some .closing
      tasks := fun handle => (state.tasks handle).map RouteTask.abort }
  else state

def advanceLogout (ok : Bool) : RouteState Blob :=
  match state.logout with
  | some .closing => { state.releasePrivateRoute ok with logout := some .released }
  | some .released =>
    { state with
      node := { routeBlob := none, hasProfileDhtKey := false, hasMailboxDhtKey := false }
      loggedIn := false
      logout := none }
  | none => state

end RouteState

inductive RouteEvent (Blob : Type) where
  | login
  | refresh
  | routesDie (routes : List Nat)
  | routeChange (deadRoutes : List Nat)
  | allocates (handle : Nat) (blob : Blob)
  | refuses (handle : Nat)
  | turn (handle : Nat) (ok : Bool)
  | logout
  | logoutTurn (ok : Bool)

def RouteState.step {Blob : Type} (state : RouteState Blob) : RouteEvent Blob → RouteState Blob
  | .login => state.login
  | .refresh => state.refresh
  | .routesDie routes => state.routesDie routes
  | .routeChange deadRoutes => state.routeChange deadRoutes
  | .allocates handle blob => state.allocates handle blob
  | .refuses handle => state.refuses handle
  | .turn handle ok => state.turn handle ok
  | .logout => state.beginLogout
  | .logoutTurn ok => state.advanceLogout ok

end Rekindle.Client
