import Rekindle.Library.Runs
import Rekindle.Community.KeyViews

/-! # Keys and their labels

A key is put into the cache, and its generation then into the state, the payload into the keychain and
the generation into the row. A send reads the generation from the state and the key from the cache. All
agree as long as these accesses do not overlap.
-/
namespace Rekindle.Community
set_option autoImplicit false
open ByteWords Server Fallible Interleaving Runs

/-! ## Runs -/

/-- Running tasks, and the messages composed so far, each with the key that its ciphertext is made with. -/
structure KeyHistory where
  pool : Pool ClientState Task
  sealedWith : List (PendingChannelMessage × MediaEncryptionKey)

inductive Action where
  | turn (turn : Turn Request)
  /-- The process ends and starts anew. -/
  | restart

section
variable (crypto : Crypto)

/-- The message that the task's next section composes. -/
def Task.composed (state : ClientState) : Task → Option (PendingChannelMessage × MediaEncryptionKey)
  | .send call (.encrypt _ destination) =>
    (state.mekCache.lookup destination.communityId).map fun mek => (composeMessage crypto call destination mek, mek)
  | _ => none

def recordAction (history : KeyHistory) : Action → KeyHistory
  | .turn turn =>
    { pool := take Request.start (Task.advance crypto) history.pool turn
      sealedWith := history.sealedWith ++
        ((turnOf history.pool turn).bind (Task.composed crypto history.pool.shared)).toList }
  | .restart => { history with pool := { shared := history.pool.shared.stopped, running := [] } }

end

namespace KeyHistory

variable (history : KeyHistory)

def state : ClientState := history.pool.shared

/-- The message bears the generation of the very key that sealed it. -/
def Vouches (message : PendingChannelMessage) : Prop :=
  ∃ mek, (message, mek) ∈ history.sealedWith ∧ message.mekGeneration = mek.generation

end KeyHistory

/-! ## Tasks at work on a key -/

/-- The community whose key the task has cached and not written everywhere, with the key; a join without
an answer has none. -/
def Task.carried : Task → Option (String × Option MediaEncryptionKey)
  | .join call (.insertCommunity _ joined) => some (call.communityId, joined.bind Joined.mek)
  | .join call (.readBack _ joined) => some (call.communityId, joined.bind Joined.mek)
  | .join call (.storeCached _ joined _) => some (call.communityId, joined.bind Joined.mek)
  | .join call (.insertRow _ joined _) => some (call.communityId, joined.bind Joined.mek)
  | .persistMek communityId _ mek _ => some (communityId, some mek)
  | _ => none

/-- Where a key is noted besides the cache. -/
inductive Place where
  | label
  | keychain
  | row
  deriving DecidableEq

/-- Where the task is still going to note the key. -/
def Task.owed : Task → List Place
  | .join _ (.insertCommunity _ _) => [.label, .keychain, .row]
  | .join _ (.readBack _ _) => [.keychain, .row]
  | .join _ (.storeCached _ _ _) => [.keychain, .row]
  | .join _ (.insertRow _ _ _) => [.row]
  | .persistMek _ _ _ .setGeneration => [.label, .keychain, .row]
  | .persistMek _ _ _ .storeKey => [.keychain, .row]
  | .persistMek _ _ _ .updateRow => [.row]
  | _ => []

def Task.Owes (place : Place) (communityId : String) (mek : MediaEncryptionKey) (task : Task) : Prop :=
  task.carried = some (communityId, some mek) ∧ place ∈ task.owed

def Task.LoggingIn : Task → Prop
  | .login _ .unlock => False
  | .login _ _ => True
  | _ => False

/-- The task has found somebody logged in, or has logged in. -/
def Task.Started : Task → Prop
  | .login _ .unlock => False
  | .join _ .begin => False
  | .requestMek _ _ => False
  | .send _ .begin => False
  | _ => True

instance (task : Task) : Decidable task.LoggingIn := by
  unfold Task.LoggingIn
  split <;> infer_instance

/-! ## When accesses do not overlap -/

/-- The key is not older than the cached one, and nobody is at work on another key of the community. -/
structure Arrives (history : KeyHistory) (communityId : String) (mek : MediaEncryptionKey) : Prop where
  newer : ∀ cached ∈ history.state.mekCache.lookup communityId, cached.generation ≤ mek.generation
  alone : ∀ other ∈ history.pool.running, ∀ carried ∈ other.carried, carried.1 = communityId → carried.2 = some mek
  loggedIn : ∀ other ∈ history.pool.running, ¬other.LoggingIn

/-- A join that the server has answered brings a key, and an older row is of the same generation; one that
it has not answered finds no key in the cache. -/
def JoinOrderly (history : KeyHistory) (communityId : String) : Except String (Option Joined) → Prop
  | .ok (some joined) => ∃ mek ∈ joined.mek, Arrives history communityId mek ∧
      ∀ row ∈ history.state.row? communityId, row.mekGeneration = mek.generation.toInt64
  | .ok none => history.state.mekCache.lookup communityId = none ∧
      ∀ other ∈ history.pool.running, ¬other.LoggingIn
  | .error _ => True

theorem arrives_iff {history : KeyHistory} {communityId : String} {mek : MediaEncryptionKey} :
    Arrives history communityId mek ↔
      (∀ cached ∈ history.state.mekCache.lookup communityId, cached.generation ≤ mek.generation) ∧
      (∀ other ∈ history.pool.running, ∀ carried ∈ other.carried, carried.1 = communityId → carried.2 = some mek) ∧
      ∀ other ∈ history.pool.running, ¬other.LoggingIn :=
  ⟨fun h => ⟨h.newer, h.alone, h.loggedIn⟩, fun h => ⟨h.1, h.2.1, h.2.2⟩⟩

instance (history : KeyHistory) (communityId : String) (mek : MediaEncryptionKey) :
    Decidable (Arrives history communityId mek) := decidable_of_iff _ arrives_iff.symm

instance (history : KeyHistory) (communityId : String) (joined : Except String (Option Joined)) :
    Decidable (JoinOrderly history communityId joined) := by
  unfold JoinOrderly
  split <;> infer_instance

def Task.Orderly (history : KeyHistory) : Task → Prop
  | .login _ .unlock => history.state.identity = none
  | .join call (.callServer _) => JoinOrderly history call.communityId call.rpcResult
  | .receiveMek communityId reply => ∀ found ∈ reply.mek?, found.1 = mekPayload found.2 ∧
      found.2.generation.toNat ≤ i64Max ∧ history.state.label? communityId ≠ none ∧
      Arrives history communityId found.2
  | .send _ (.encrypt _ destination) =>
    history.state.label? destination.communityId = some destination.mekGeneration ∧
      ∀ other ∈ history.pool.running, ∀ carried ∈ other.carried, carried.1 = destination.communityId →
        .label ∈ other.owed → ∀ mek ∈ carried.2, mek.generation = destination.mekGeneration
  | _ => True

def Orderly (history : KeyHistory) : Action → Prop
  | .turn turn => ∀ task ∈ turnOf history.pool turn, task.Orderly history
  | .restart => ∀ task ∈ history.pool.running, ∀ carried ∈ task.carried, carried.2 = none

instance (history : KeyHistory) (task : Task) : Decidable (task.Orderly history) := by
  unfold Task.Orderly
  split <;> infer_instance

instance (history : KeyHistory) (action : Action) : Decidable (Orderly history action) := by
  unfold Orderly
  split <;> infer_instance

/-! ## What holds of one community -/

/-- Keychain and row agree while nobody is logged in. -/
def KeyView.Settled (view : KeyView) : Prop :=
  match view.payload with
  | some payload => ∃ mek : MediaEncryptionKey, payload = mekPayload mek ∧ mek.key.length = 32 ∧
      ∃ isHosted, view.row = some (mek.generation.toInt64, isHosted)
  | none => ∀ generation, view.row = some (generation, true) → generation = 1

def KeyView.Written (view : KeyView) (mek : MediaEncryptionKey) : Place → Prop
  | .label => view.label = some mek.generation
  | .keychain => view.payload = some (mekPayload mek)
  | .row => ∃ isHosted, view.row = some (mek.generation.toInt64, isHosted)

/-- No row says otherwise. -/
def KeyView.RowAgrees (view : KeyView) (mek : MediaEncryptionKey) : Prop :=
  ∀ row ∈ view.row, row.1 = mek.generation.toInt64

/-- What a join has got is in the cache. -/
def KeyView.Carries (view : KeyView) : Option Joined → Prop
  | some joined => ∃ mek, joined.mek = some mek ∧ joined.mekGeneration = mek.generation ∧
      view.cached = some mek ∧ view.RowAgrees mek
  | none => view.cached = none

/-- The community of the row is in memory with the generation of the row. -/
def KeyView.Loaded (view : KeyView) : Prop := ∀ row ∈ view.row, view.label = some row.1.toUInt64

/-- What a login has found is in the keychain. -/
def KeyView.Finds (view : KeyView) (communityId : String) (meks : List (String × MediaEncryptionKey)) : Prop :=
  ∀ mek, (communityId, mek) ∈ meks → mek.key.length = 32 ∧ view.payload = some (mekPayload mek)

/-- A key drawn anew is of generation 1. -/
def KeyView.Regenerated (view : KeyView) (communityId : String) (regenerated : List String) : Prop :=
  communityId ∈ regenerated → ∃ mek : MediaEncryptionKey, mek.generation = 1 ∧ view.payload = some (mekPayload mek)

def LoginStage.Meets (communityId : String) (view : KeyView) : LoginStage → Prop
  | .unlock => True
  | .readRows => True
  | .loadCommunities rows _ => (rows.map CommunityRow.id).Nodup ∧
      (Keyed.find CommunityRow.id communityId rows).map rowView = view.row
  | .collect => view.Loaded
  | .restore todo restored => view.Loaded ∧
      ((communityId, true) ∈ todo → ∃ generation, view.row = some (generation, true)) ∧
      view.Finds communityId restored.meks ∧ view.Regenerated communityId restored.regenerated
  | .applyUpdates restored => view.Loaded ∧ view.Finds communityId restored.meks ∧
      view.Regenerated communityId restored.regenerated
  | .fillCache meks => view.Loaded ∧ view.Finds communityId meks

def JoinStage.Meets (view : KeyView) : JoinStage → Prop
  | .begin => True
  | .callServer _ => True
  | .insertCommunity _ joined => view.Carries joined
  | .readBack _ joined => view.Carries joined ∧ ∀ found ∈ joined, view.label = some found.mekGeneration
  | .storeCached _ joined details => view.Carries joined ∧ ∀ found ∈ joined, details.mekGeneration = found.mekGeneration
  | .insertRow _ joined details => view.Carries joined ∧ ∀ found ∈ joined, details.mekGeneration = found.mekGeneration

/-- What a running task may rely on. -/
def Task.Meets (communityId : String) (view : KeyView) : Task → Prop
  | .login _ stage => stage.Meets communityId view
  | .join call stage => call.communityId = communityId → stage.Meets view
  | .persistMek other mekEncrypted mek _ => other = communityId →
      view.cached = some mek ∧ mekEncrypted = mekPayload mek ∧ mek.generation.toNat ≤ i64Max ∧ view.label ≠ none
  | _ => True

/-- The task is going to insert the row of the community. -/
def Task.InsertsRow (communityId : String) : Task → Prop
  | .join call stage => call.communityId = communityId ∧ (Task.join call stage).carried ≠ none
  | _ => False

/-- Everything about the community agrees, up to what running tasks are going to write. -/
structure Agreed (communityId : String) (history : KeyHistory) : Prop where
  meets : ∀ task ∈ history.pool.running, task.Meets communityId (history.state.view communityId)
  keyLength : ∀ mek ∈ (history.state.view communityId).cached, mek.key.length = 32
  written : ∀ mek ∈ (history.state.view communityId).cached, ∀ place,
    (history.state.view communityId).Written mek place ∨ ∃ task ∈ history.pool.running, task.Owes place communityId mek
  settled : (history.state.view communityId).cached = none → (history.state.view communityId).Settled
  stored : (history.state.view communityId).label ≠ none →
    (history.state.view communityId).row ≠ none ∨ ∃ task ∈ history.pool.running, task.InsertsRow communityId
  hosted : (history.state.view communityId).hosted = true →
    ∃ generation, (history.state.view communityId).row = some (generation, true)

/-- What holds besides, whatever the community. -/
structure InSession (history : KeyHistory) : Prop where
  unlocked : history.state.identity.isSome → history.state.unlocked = true
  started : ∀ task ∈ history.pool.running, task.Started → history.state.identity.isSome
  apart : ∀ task ∈ history.pool.running, task.LoggingIn → ∀ other ∈ history.pool.running, other.carried = none
  rows : (history.state.db.communities.map CommunityRow.id).Nodup

end Rekindle.Community
