import Mathlib.Data.Finset.Dedup
import Mathlib.Data.Finset.Erase
import Mathlib.Data.Finset.Insert
import Mathlib.Data.Finset.SDiff
import Mathlib.Logic.Function.Basic
import Rekindle.Library.Runs

/-! # Watches on the profile records of friends

A watch lives in the network: it ends with a detachment, with the record, or with a value change that
says so. The presence values themselves are left out. -/
namespace Rekindle.Client
set_option autoImplicit false

structure WatchNode where
  isAttached : Bool
  publicInternetReady : Bool
deriving DecidableEq, Repr

structure DHTManagerHandle where
  dhtKeyToFriend : String → Option String
  openRecords : Finset String

/-- The friend map: its keys, and the `dht_record_key` of each. -/
structure WatchedFriends where
  names : List String
  dhtRecordKey : String → Option String

/-- The state of `start_sync_loop`. While it visits friends, `visiting` lists those that are left. -/
structure SyncLoop where
  watchedKeys : Finset String
  visiting : Option (List (String × String))
deriving DecidableEq

structure WatchState where
  node : Option WatchNode
  dhtManager : Option DHTManagerHandle
  loggedIn : Bool
  friends : WatchedFriends
  unwatchedFriends : Finset String
  syncLoop : Option SyncLoop
  liveWatches : Finset String

/-- What the network makes of an attempt to open a record and to watch it. -/
inductive WatchOutcome where
  | openFailed
  | active
  | inactive
  | failed
deriving DecidableEq, Repr

namespace WatchState

def initial : WatchState where
  node := none
  dhtManager := none
  loggedIn := false
  friends := { names := [], dhtRecordKey := fun _ => none }
  unwatchedFriends := ∅
  syncLoop := none
  liveWatches := ∅

def isAttached (state : WatchState) : Bool := state.node.any WatchNode.isAttached

def registerFriendDhtKey (state : WatchState) (dhtKey friendKey : String) : WatchState :=
  { state with
    dhtManager := state.dhtManager.map fun manager =>
      { manager with dhtKeyToFriend := Function.update manager.dhtKeyToFriend dhtKey (some friendKey) } }

def trackOpenRecord (state : WatchState) (dhtKey : String) : WatchState :=
  { state with
    dhtManager := state.dhtManager.map fun manager =>
      { manager with openRecords := insert dhtKey manager.openRecords } }

def setDhtRecordKey (state : WatchState) (friendKey dhtKey : String) : WatchState :=
  { state with
    friends :=
      if friendKey ∈ state.friends.names then
        { state.friends with dhtRecordKey := Function.update state.friends.dhtRecordKey friendKey (some dhtKey) }
      else state.friends }

/-- The key is registered for the friend before anything is tried. -/
def noteFriendKey (state : WatchState) (friendKey dhtKey : String) : WatchState :=
  (state.registerFriendDhtKey dhtKey friendKey).setDhtRecordKey friendKey dhtKey

/-- What `watch_friend` records of an attempt. A record that cannot be opened is left to the next tick. -/
def takeOutcome (state : WatchState) (friendKey dhtKey : String) : WatchOutcome → WatchState
  | .openFailed => state
  | .active =>
    { state.trackOpenRecord dhtKey with
      liveWatches := insert dhtKey state.liveWatches
      unwatchedFriends := state.unwatchedFriends.erase friendKey }
  | .inactive =>
    { state.trackOpenRecord dhtKey with unwatchedFriends := insert friendKey state.unwatchedFriends }
  | .failed =>
    { state.trackOpenRecord dhtKey with unwatchedFriends := insert friendKey state.unwatchedFriends }

section
variable (parses : String → Bool)

/-- `watch_friend`, and whether it returns `Ok`. -/
def watchFriend (state : WatchState) (friendKey dhtKey : String) (outcome : WatchOutcome) : WatchState × Bool :=
  let noted := state.noteFriendKey friendKey dhtKey
  if noted.node.isNone then (noted, true)
  else if !parses dhtKey then (noted, false)
  else (noted.takeOutcome friendKey dhtKey outcome, true)

def tryRewatchFriend (state : WatchState) (dhtKey : String) (outcome : WatchOutcome) : WatchState :=
  match state.dhtManager.bind fun manager => manager.dhtKeyToFriend dhtKey with
  | none => state
  | some friendKey =>
    match state.watchFriend parses friendKey dhtKey outcome with
    | (state, true) => state
    | (state, false) => { state with unwatchedFriends := insert friendKey state.unwatchedFriends }

/-- The watch has died, or this is its last notification. -/
def watchEnds (subkeys : List Nat) (count : Nat) : Bool := subkeys.isEmpty || count == 0

def handleValueChange (state : WatchState) (dhtKey : String) (subkeys : List Nat) (count : Nat)
    (outcome : WatchOutcome) : WatchState :=
  if watchEnds subkeys count then
    tryRewatchFriend parses { state with liveWatches := state.liveWatches.erase dhtKey } dhtKey outcome
  else state

end

/-! ### The sync loop -/

def friendsWithDht (state : WatchState) : List (String × String) :=
  state.friends.names.filterMap fun name => (state.friends.dhtRecordKey name).map fun key => (name, key)

/-- The DHT keys of the friends whose watches died. -/
def unwatchedKeys (state : WatchState) : Finset String :=
  ((state.friends.names.filter (· ∈ state.unwatchedFriends)).filterMap state.friends.dhtRecordKey).toFinset

/-- A tick of the loop up to its first friend. -/
def beginTick (state : WatchState) : WatchState :=
  match state.syncLoop with
  | some ⟨watchedKeys, none⟩ =>
    if state.isAttached then
      { state with syncLoop := some ⟨watchedKeys \ state.unwatchedKeys, some state.friendsWithDht⟩ }
    else state
  | _ => state

/-- The loop's next friend. -/
def visitFriend (parses : String → Bool) (state : WatchState) (outcome : WatchOutcome) : WatchState :=
  match state.syncLoop with
  | some ⟨watchedKeys, some ((friendKey, dhtKey) :: rest)⟩ =>
    let visited := { state with syncLoop := some ⟨watchedKeys, some rest⟩ }
    if !parses dhtKey then visited
    else
      let registered := visited.registerFriendDhtKey dhtKey friendKey
      if dhtKey ∈ watchedKeys then registered
      else
        match registered.watchFriend parses friendKey dhtKey outcome with
        | (watched, true) => { watched with syncLoop := some ⟨insert dhtKey watchedKeys, some rest⟩ }
        | (watched, false) => watched
  | _ => state

def endTick (state : WatchState) : WatchState :=
  match state.syncLoop with
  | some ⟨watchedKeys, some []⟩ => { state with syncLoop := some ⟨watchedKeys, none⟩ }
  | _ => state

/-! ### The node and the session -/

/-- `initialize_node`, which also makes the DHT manager. -/
def startNode (state : WatchState) : WatchState :=
  if state.node.isNone then
    { state with
      node := some { isAttached := false, publicInternetReady := false }
      dhtManager := some { dhtKeyToFriend := fun _ => none, openRecords := ∅ } }
  else state

def invalidateAllWatches (state : WatchState) : WatchState :=
  { state with
    unwatchedFriends :=
      state.unwatchedFriends ∪
        (state.friends.names.filter fun name => (state.friends.dhtRecordKey name).isSome).toFinset }

/-- `handle_attachment`. A detachment is the end of every watch. -/
def handleAttachment (state : WatchState) (attached publicInternetReady : Bool) : WatchState :=
  let reconnected := !state.isAttached && attached
  let state :=
    { state with
      node := state.node.map fun _ => { isAttached := attached, publicInternetReady }
      liveWatches := if attached then state.liveWatches else ∅ }
  if reconnected && publicInternetReady && state.loggedIn then state.invalidateAllWatches else state

/-- A login, which is offered when nobody is logged in. -/
def login (state : WatchState) (friends : WatchedFriends) : WatchState :=
  if state.loggedIn then state
  else
    { state with
      loggedIn := true
      friends
      syncLoop := if state.node.isSome then some ⟨∅, none⟩ else none }

/-- `logout_cleanup`. Closing a record ends its watch. -/
def logout (state : WatchState) : WatchState :=
  { state with
    loggedIn := false
    friends := { names := [], dhtRecordKey := fun _ => none }
    syncLoop := none
    liveWatches := state.liveWatches \ (state.dhtManager.elim ∅ DHTManagerHandle.openRecords)
    dhtManager := state.dhtManager.map fun _ => { dhtKeyToFriend := fun _ => none, openRecords := ∅ } }

end WatchState

/-- `watch` is any call to `watch_friend` but those of the loop: a message handler's, a command's, or one
of the `sync_friends_now` that runs beside the loop and visits every friend. -/
inductive WatchEvent where
  | startNode
  | attachment (attached publicInternetReady : Bool)
  | login (friends : WatchedFriends)
  | logout
  | beginTick
  | visitFriend (outcome : WatchOutcome)
  | endTick
  | watch (friendKey dhtKey : String) (outcome : WatchOutcome)
  | valueChange (dhtKey : String) (subkeys : List Nat) (count : Nat) (outcome : WatchOutcome)

def WatchState.step (parses : String → Bool) (state : WatchState) : WatchEvent → WatchState
  | .startNode => state.startNode
  | .attachment attached publicInternetReady => state.handleAttachment attached publicInternetReady
  | .login friends => state.login friends
  | .logout => state.logout
  | .beginTick => state.beginTick
  | .visitFriend outcome => state.visitFriend parses outcome
  | .endTick => state.endTick
  | .watch friendKey dhtKey outcome => (state.watchFriend parses friendKey dhtKey outcome).1
  | .valueChange dhtKey subkeys count outcome => state.handleValueChange parses dhtKey subkeys count outcome

end Rekindle.Client
