import Rekindle.Client.Watches

/-! # Every friend is watched or polled -/
namespace Rekindle.Client
set_option autoImplicit false
open Runs

namespace WatchState
variable {parses : String → Bool} {state : WatchState} {friendKey dhtKey name key : String}
  {outcome : WatchOutcome}

/-- A friend with a valid profile DHT key. -/
def HasKey (parses : String → Bool) (state : WatchState) (name key : String) : Prop :=
  name ∈ state.friends.names ∧ state.friends.dhtRecordKey name = some key ∧ parses key = true

def Covered (state : WatchState) (name key : String) : Prop :=
  key ∈ state.liveWatches ∨ name ∈ state.unwatchedFriends

def AllCovered (parses : String → Bool) (state : WatchState) : Prop :=
  ∀ name key, state.HasKey parses name key → state.Covered name key

/-- An attempt leaves nobody behind who has the key: it succeeds, or the poll set has them already, or
the failure puts the friend of the attempt there. -/
def Safe (state : WatchState) (friendKey dhtKey : String) (outcome : WatchOutcome) : Prop :=
  outcome = .active ∨ dhtKey ∈ state.liveWatches ∨
    ∀ name ∈ state.friends.names, state.friends.dhtRecordKey name = some dhtKey ∨ name = friendKey →
      name ∈ state.unwatchedFriends ∨ name = friendKey ∧ outcome ≠ .openFailed

/-- The condition on an event. A failure to open a record must not concern a friend who is not polled,
and the network must be ready when it comes back to a loop that has begun to watch. -/
def Meets (parses : String → Bool) (state : WatchState) : WatchEvent → Prop
  | .attachment attached publicInternetReady =>
    attached = true → publicInternetReady = true ∨ state.isAttached = true ∨
      state.syncLoop = none ∨ state.syncLoop = some ⟨∅, none⟩
  | .visitFriend outcome =>
    state.isAttached = true → ∀ watchedKeys friendKey dhtKey rest,
      state.syncLoop = some ⟨watchedKeys, some ((friendKey, dhtKey) :: rest)⟩ → parses dhtKey = true →
      dhtKey ∉ watchedKeys → state.Safe friendKey dhtKey outcome
  | .watch friendKey dhtKey outcome =>
    state.isAttached = true → parses dhtKey = true → state.Safe friendKey dhtKey outcome
  | .valueChange dhtKey subkeys count outcome =>
    state.isAttached = true → watchEnds subkeys count = true → parses dhtKey = true →
      ∀ friendKey, (state.dhtManager.bind fun manager => manager.dhtKeyToFriend dhtKey) = some friendKey →
        Safe { state with liveWatches := state.liveWatches.erase dhtKey } friendKey dhtKey outcome
  | _ => True

/-- The event completes a tick of the sync loop. -/
def CompletesTick (state : WatchState) (event : WatchEvent) : Prop :=
  (∃ watchedKeys, state.syncLoop = some ⟨watchedKeys, some []⟩) ∧ event = .endTick

/-! ### A call to `watch_friend` -/

theorem watchFriend_cases (parses : String → Bool) (state : WatchState) (friendKey dhtKey : String)
    (outcome : WatchOutcome) :
    (state.node.isSome = false ∧
      state.watchFriend parses friendKey dhtKey outcome = (state.noteFriendKey friendKey dhtKey, true)) ∨
    (parses dhtKey = false ∧
      state.watchFriend parses friendKey dhtKey outcome = (state.noteFriendKey friendKey dhtKey, false)) ∨
    (state.node.isSome = true ∧ parses dhtKey = true ∧ state.watchFriend parses friendKey dhtKey outcome =
      ((state.noteFriendKey friendKey dhtKey).takeOutcome friendKey dhtKey outcome, true)) := by
  have hNode : (state.noteFriendKey friendKey dhtKey).node = state.node := rfl
  simp only [watchFriend, hNode]
  cases state.node with
  | none => exact .inl ⟨rfl, rfl⟩
  | some node =>
    cases hParses : parses dhtKey with
    | false => exact .inr (.inl ⟨rfl, rfl⟩)
    | true => exact .inr (.inr ⟨rfl, rfl, rfl⟩)

/-- Apart from the friends, the DHT manager, the watches and the poll set, the call changes nothing. -/
theorem watchFriend_frame : (state.watchFriend parses friendKey dhtKey outcome).1.node = state.node ∧
    (state.watchFriend parses friendKey dhtKey outcome).1.loggedIn = state.loggedIn ∧
    (state.watchFriend parses friendKey dhtKey outcome).1.syncLoop = state.syncLoop ∧
    (state.watchFriend parses friendKey dhtKey outcome).1.friends = (state.noteFriendKey friendKey dhtKey).friends := by
  rcases watchFriend_cases parses state friendKey dhtKey outcome with ⟨-, hCall⟩ | ⟨-, hCall⟩ | ⟨-, -, hCall⟩
  · rw [hCall]
    exact ⟨rfl, rfl, rfl, rfl⟩
  · rw [hCall]
    exact ⟨rfl, rfl, rfl, rfl⟩
  · rw [hCall]
    cases outcome <;> exact ⟨rfl, rfl, rfl, rfl⟩

theorem ok_watchFriend (hParses : parses dhtKey = true) :
    (state.watchFriend parses friendKey dhtKey outcome).2 = true := by
  rcases watchFriend_cases parses state friendKey dhtKey outcome with ⟨-, hCall⟩ | ⟨hNot, -⟩ | ⟨-, -, hCall⟩
  · rw [hCall]
  · rw [hParses] at hNot
    cases hNot
  · rw [hCall]

theorem noteFriendKey_friends : (state.noteFriendKey friendKey dhtKey).friends =
    if friendKey ∈ state.friends.names then
      { state.friends with dhtRecordKey := Function.update state.friends.dhtRecordKey friendKey (some dhtKey) }
    else state.friends := rfl

/-- Who has a key after the call: those who had it, but for the friend, who has the new one. -/
theorem hasKey_watchFriend
    (h : HasKey parses (state.watchFriend parses friendKey dhtKey outcome).1 name key) :
    name ∈ state.friends.names ∧
      ((name = friendKey ∧ key = dhtKey) ∨ (name ≠ friendKey ∧ HasKey parses state name key)) := by
  obtain ⟨hName, hKey, hParses⟩ := h
  rw [watchFriend_frame.2.2.2, noteFriendKey_friends] at hName hKey
  split at hKey
  · rw [if_pos ‹_›] at hName
    change Function.update state.friends.dhtRecordKey friendKey (some dhtKey) name = some key at hKey
    refine ⟨hName, ?_⟩
    by_cases hFriend : name = friendKey
    · subst hFriend
      rw [Function.update_self] at hKey
      exact .inl ⟨rfl, (Option.some.inj hKey).symm⟩
    · rw [Function.update_of_ne hFriend] at hKey
      exact .inr ⟨hFriend, hName, hKey, hParses⟩
  · rename_i hStranger
    rw [if_neg hStranger] at hName
    exact ⟨hName, .inr ⟨fun hEq => hStranger (hEq ▸ hName), hName, hKey, hParses⟩⟩

/-- After a safe attempt everybody who has the key is covered. -/
theorem covered_of_safe (hNode : state.node.isSome = true) (hSafe : state.Safe friendKey dhtKey outcome)
    (h : HasKey parses (state.watchFriend parses friendKey dhtKey outcome).1 name dhtKey) :
    Covered (state.watchFriend parses friendKey dhtKey outcome).1 name dhtKey := by
  have hWho : state.friends.dhtRecordKey name = some dhtKey ∨ name = friendKey := by
    rcases (hasKey_watchFriend h).2 with ⟨hName, -⟩ | ⟨-, hOld⟩
    · exact .inr hName
    · exact .inl hOld.2.1
  have hPolled := fun hAll : ∀ name ∈ state.friends.names,
      state.friends.dhtRecordKey name = some dhtKey ∨ name = friendKey →
      name ∈ state.unwatchedFriends ∨ name = friendKey ∧ outcome ≠ .openFailed =>
    hAll name (hasKey_watchFriend h).1 hWho
  rcases watchFriend_cases parses state friendKey dhtKey outcome with ⟨hNone, -⟩ | ⟨hNot, -⟩ | ⟨-, -, hCall⟩
  · rw [hNode] at hNone
    cases hNone
  · rw [h.2.2] at hNot
    cases hNot
  · rw [hCall]
    cases outcome with
    | active => exact .inl (Finset.mem_insert_self _ _)
    | openFailed =>
      rcases hSafe with hActive | hLive | hAll
      · cases hActive
      · exact .inl hLive
      · exact .inr ((hPolled hAll).resolve_right fun hOpened => hOpened.2 rfl)
    | inactive | failed =>
      rcases hSafe with hActive | hLive | hAll
      · cases hActive
      · exact .inl hLive
      · refine .inr (Finset.mem_insert.mpr ?_)
        exact (hPolled hAll).symm.imp And.left id

/-- The attempt leaves the cover of every other friend alone. -/
theorem covered_of_other (hOther : name ≠ friendKey) (h : state.Covered name key) :
    Covered (state.watchFriend parses friendKey dhtKey outcome).1 name key := by
  rcases watchFriend_cases parses state friendKey dhtKey outcome with ⟨-, hCall⟩ | ⟨-, hCall⟩ | ⟨-, -, hCall⟩
  · rw [hCall]
    exact h
  · rw [hCall]
    exact h
  · rw [hCall]
    cases outcome with
    | openFailed => exact h
    | active => exact h.imp Finset.mem_insert_of_mem fun hMem => Finset.mem_erase.mpr ⟨hOther, hMem⟩
    | inactive | failed => exact h.imp id Finset.mem_insert_of_mem

/-! ### The records behind the watches -/

/-- The record is open, and its key is registered for a friend. -/
def KnownKey (state : WatchState) (key : String) : Prop :=
  ∃ manager friend, state.dhtManager = some manager ∧ key ∈ manager.openRecords ∧
    manager.dhtKeyToFriend key = some friend

theorem KnownKey.note (h : state.KnownKey key) : (state.noteFriendKey friendKey dhtKey).KnownKey key := by
  obtain ⟨manager, friend, hManager, hOpen, hFriend⟩ := h
  have hNoted : (state.noteFriendKey friendKey dhtKey).dhtManager =
      some { manager with dhtKeyToFriend := Function.update manager.dhtKeyToFriend dhtKey (some friendKey) } :=
    congrArg (Option.map _) hManager
  by_cases hSame : key = dhtKey
  · refine ⟨_, friendKey, hNoted, hOpen, ?_⟩
    rw [hSame]
    exact Function.update_self ..
  · exact ⟨_, friend, hNoted, hOpen, (Function.update_of_ne hSame _ _).trans hFriend⟩

theorem KnownKey.track (h : state.KnownKey key) : (state.trackOpenRecord dhtKey).KnownKey key := by
  obtain ⟨manager, friend, hManager, hOpen, hFriend⟩ := h
  exact ⟨_, friend, congrArg (Option.map _) hManager, Finset.mem_insert_of_mem hOpen, hFriend⟩

theorem knownKey_of_track (hManager : state.dhtManager.isSome = true) :
    ((state.noteFriendKey friendKey dhtKey).trackOpenRecord dhtKey).KnownKey dhtKey := by
  obtain ⟨manager, hSome⟩ := Option.isSome_iff_exists.mp hManager
  have hNoted : (state.noteFriendKey friendKey dhtKey).dhtManager =
      some { manager with dhtKeyToFriend := Function.update manager.dhtKeyToFriend dhtKey (some friendKey) } :=
    congrArg (Option.map _) hSome
  exact ⟨_, friendKey, congrArg (Option.map _) hNoted, Finset.mem_insert_self _ _, Function.update_self ..⟩

theorem known_watchFriend (hManaged : state.node.isSome = state.dhtManager.isSome)
    (hKnown : ∀ key ∈ state.liveWatches, state.KnownKey key) :
    ∀ key ∈ (state.watchFriend parses friendKey dhtKey outcome).1.liveWatches,
      KnownKey (state.watchFriend parses friendKey dhtKey outcome).1 key := by
  rcases watchFriend_cases parses state friendKey dhtKey outcome with ⟨-, hCall⟩ | ⟨-, hCall⟩ | ⟨hNode, -, hCall⟩
  · rw [hCall]
    exact fun key hKey => (hKnown key hKey).note
  · rw [hCall]
    exact fun key hKey => (hKnown key hKey).note
  · rw [hCall]
    cases outcome with
    | openFailed => exact fun key hKey => (hKnown key hKey).note
    | active =>
      intro key hKey
      rcases Finset.mem_insert.mp hKey with rfl | hOld
      · exact knownKey_of_track (hManaged ▸ hNode)
      · exact (hKnown key hOld).note.track
    | inactive | failed => exact fun key hKey => (hKnown key hKey).note.track

theorem dhtManager_watchFriend :
    (state.watchFriend parses friendKey dhtKey outcome).1.dhtManager.isSome = state.dhtManager.isSome := by
  rcases watchFriend_cases parses state friendKey dhtKey outcome with ⟨-, hCall⟩ | ⟨-, hCall⟩ | ⟨-, -, hCall⟩
  · rw [hCall]
    exact Option.isSome_map
  · rw [hCall]
    exact Option.isSome_map
  · rw [hCall]
    cases outcome with
    | openFailed => exact Option.isSome_map
    | active | inactive | failed => exact Option.isSome_map.trans Option.isSome_map

/-! ### The invariant -/

/-- What holds between two events. The friends with the key `skip` are not looked after for the moment. -/
structure TendedBut (parses : String → Bool) (skip : Option String) (state : WatchState) : Prop where
  session : state.syncLoop ≠ none → state.loggedIn = true
  managed : state.node.isSome = state.dhtManager.isSome
  known : ∀ key ∈ state.liveWatches, state.KnownKey key
  kept : state.isAttached = true → ∀ watchedKeys visiting, state.syncLoop = some ⟨watchedKeys, visiting⟩ →
    ∀ name key, some key ≠ skip → HasKey parses state name key → key ∈ watchedKeys → state.Covered name key
  visited : state.isAttached = true → ∀ watchedKeys rest, state.syncLoop = some ⟨watchedKeys, some rest⟩ →
    ∀ name key, some key ≠ skip → HasKey parses state name key →
      key ∈ watchedKeys ∨ (name, key) ∈ rest ∨ state.Covered name key

abbrev Tended (parses : String → Bool) (state : WatchState) : Prop := TendedBut parses none state

theorem isAttached_watchFriend :
    (state.watchFriend parses friendKey dhtKey outcome).1.isAttached = state.isAttached := by
  rw [isAttached, watchFriend_frame.1]
  rfl

theorem node_of_isAttached (h : state.isAttached = true) : state.node.isSome = true := by
  rw [isAttached] at h
  cases hNode : state.node with
  | none =>
    rw [hNode] at h
    cases h
  | some node => rfl

/-- A safe attempt looks after the friends with its key, and leaves the others as they were. -/
theorem TendedBut.watchFriend (h : TendedBut parses (some dhtKey) state)
    (hSafe : state.isAttached = true → parses dhtKey = true → state.Safe friendKey dhtKey outcome) :
    Tended parses (state.watchFriend parses friendKey dhtKey outcome).1 := by
  have hCover (hAttached : state.isAttached = true) (name key : String)
      (hKey : HasKey parses (state.watchFriend parses friendKey dhtKey outcome).1 name key) (hSame : key = dhtKey) :
      Covered (state.watchFriend parses friendKey dhtKey outcome).1 name key := by
    subst hSame
    exact covered_of_safe (node_of_isAttached hAttached) (hSafe hAttached hKey.2.2) hKey
  have hElse (name key : String)
      (hKey : HasKey parses (state.watchFriend parses friendKey dhtKey outcome).1 name key) (hOther : key ≠ dhtKey) :
      name ≠ friendKey ∧ HasKey parses state name key := by
    rcases (hasKey_watchFriend hKey).2 with ⟨-, hSame⟩ | hOld
    · exact absurd hSame hOther
    · exact hOld
  refine ⟨?_, ?_, known_watchFriend h.managed h.known, ?_, ?_⟩
  · rw [watchFriend_frame.2.1, watchFriend_frame.2.2.1]
    exact h.session
  · rw [watchFriend_frame.1, dhtManager_watchFriend]
    exact h.managed
  · rw [isAttached_watchFriend, watchFriend_frame.2.2.1]
    intro hAttached watchedKeys visiting hLoop name key _ hKey hWatched
    by_cases hSame : key = dhtKey
    · exact hCover hAttached name key hKey hSame
    · obtain ⟨hName, hOld⟩ := hElse name key hKey hSame
      exact covered_of_other hName (h.kept hAttached watchedKeys visiting hLoop name key
        (fun hEq => hSame (Option.some.inj hEq)) hOld hWatched)
  · rw [isAttached_watchFriend, watchFriend_frame.2.2.1]
    intro hAttached watchedKeys rest hLoop name key _ hKey
    by_cases hSame : key = dhtKey
    · exact .inr (.inr (hCover hAttached name key hKey hSame))
    · obtain ⟨hName, hOld⟩ := hElse name key hKey hSame
      refine (h.visited hAttached watchedKeys rest hLoop name key
        (fun hEq => hSame (Option.some.inj hEq)) hOld).imp id (Or.imp id ?_)
      exact covered_of_other hName

theorem Tended.but (h : Tended parses state) (skip : Option String) : TendedBut parses skip state where
  session := h.session
  managed := h.managed
  known := h.known
  kept hAttached watchedKeys visiting hLoop name key _ := h.kept hAttached watchedKeys visiting hLoop name key nofun
  visited hAttached watchedKeys rest hLoop name key _ := h.visited hAttached watchedKeys rest hLoop name key nofun

/-- The end of a watch touches the friends with its key only. -/
theorem Tended.watchEnds (h : Tended parses state) (dhtKey : String) :
    TendedBut parses (some dhtKey) { state with liveWatches := state.liveWatches.erase dhtKey } where
  session := h.session
  managed := h.managed
  known key hKey := h.known key (Finset.mem_erase.mp hKey).2
  kept hAttached watchedKeys visiting hLoop name key hOther hKey hWatched := by
    have hNe : key ≠ dhtKey := fun hEq => hOther (congrArg some hEq)
    exact (h.kept hAttached watchedKeys visiting hLoop name key nofun hKey hWatched).imp
      (fun hLive => Finset.mem_erase.mpr ⟨hNe, hLive⟩) id
  visited hAttached watchedKeys rest hLoop name key hOther hKey := by
    have hNe : key ≠ dhtKey := fun hEq => hOther (congrArg some hEq)
    exact (h.visited hAttached watchedKeys rest hLoop name key nofun hKey).imp id
      (Or.imp id (Or.imp (fun hLive => Finset.mem_erase.mpr ⟨hNe, hLive⟩) id))

/-! ### One event -/

theorem tended_initial : Tended parses initial where
  session h := absurd rfl h
  managed := rfl
  known key hKey := absurd hKey (Finset.notMem_empty key)
  kept h := nomatch h
  visited h := nomatch h

/-- More friends in the poll set do no harm. -/
theorem Tended.poll (h : Tended parses state) {unwatched : Finset String} (hMore : state.unwatchedFriends ⊆ unwatched) :
    Tended parses { state with unwatchedFriends := unwatched } where
  session := h.session
  managed := h.managed
  known := h.known
  kept hAttached watchedKeys visiting hLoop name key hSkip hKey hWatched :=
    (h.kept hAttached watchedKeys visiting hLoop name key hSkip hKey hWatched).imp id (fun hMem => hMore hMem)
  visited hAttached watchedKeys rest hLoop name key hSkip hKey :=
    (h.visited hAttached watchedKeys rest hLoop name key hSkip hKey).imp id
      (Or.imp id (Or.imp id fun hMem => hMore hMem))

theorem Tended.valueChange (h : Tended parses state) (subkeys : List Nat) (count : Nat)
    (hMeets : state.Meets parses (.valueChange dhtKey subkeys count outcome)) :
    Tended parses (state.handleValueChange parses dhtKey subkeys count outcome) := by
  rw [handleValueChange]
  by_cases hEnds : WatchState.watchEnds subkeys count = true
  · rw [if_pos hEnds]
    unfold tryRewatchFriend
    cases hFriend : state.dhtManager.bind fun manager => manager.dhtKeyToFriend dhtKey with
    | none =>
      -- a key that nobody is registered for has no watch that could end
      have hDead : dhtKey ∉ state.liveWatches := by
        intro hLive
        obtain ⟨manager, friend, hManager, -, hMap⟩ := h.known dhtKey hLive
        rw [hManager, Option.bind_some, hMap] at hFriend
        cases hFriend
      rw [Finset.erase_eq_of_notMem hDead]
      exact h
    | some friend =>
      have hLater : Tended parses (WatchState.watchFriend parses
          { state with liveWatches := state.liveWatches.erase dhtKey } friend dhtKey outcome).1 :=
        (h.watchEnds dhtKey).watchFriend fun hAttached hParses => hMeets hAttached hEnds hParses friend hFriend
      dsimp only
      split
      · rename_i later hCall
        rw [hCall] at hLater
        exact hLater
      · rename_i later hCall
        rw [hCall] at hLater
        exact hLater.poll (Finset.subset_insert _ _)
  · rw [if_neg hEnds]
    exact h

theorem Tended.beginTick (h : Tended parses state) : Tended parses state.beginTick := by
  unfold WatchState.beginTick
  split
  · rename_i watchedKeys hLoop
    split
    · refine ⟨fun _ => h.session (by rw [hLoop]; exact Option.some_ne_none _), h.managed, h.known, ?_, ?_⟩
      · intro hAttached later visiting hLater name key hSkip hKey hWatched
        cases hLater
        exact h.kept hAttached watchedKeys none hLoop name key hSkip hKey (Finset.mem_sdiff.mp hWatched).1
      · intro _ later rest hLater name key _ hKey
        cases hLater
        refine .inr (.inl (List.mem_filterMap.mpr ⟨name, hKey.1, ?_⟩))
        have hRecord : state.friends.dhtRecordKey name = some key := hKey.2.1
        rw [hRecord]
        rfl
    · exact h
  · exact h

theorem Tended.endTick (h : Tended parses state) : Tended parses state.endTick := by
  unfold WatchState.endTick
  split
  · rename_i watchedKeys hLoop
    refine ⟨fun _ => h.session (by rw [hLoop]; exact Option.some_ne_none _), h.managed, h.known, ?_, ?_⟩
    · intro hAttached later visiting hLater name key hSkip hKey hWatched
      cases hLater
      exact h.kept hAttached watchedKeys _ hLoop name key hSkip hKey hWatched
    · intro _ later rest hLater
      cases hLater
  · exact h

/-- When the last friend has been visited, everybody is covered. -/
theorem Tended.allCovered (h : Tended parses state) (hAttached : state.isAttached = true) {watchedKeys : Finset String}
    (hLoop : state.syncLoop = some ⟨watchedKeys, some []⟩) : state.AllCovered parses := by
  intro name key hKey
  rcases h.visited hAttached watchedKeys [] hLoop name key nofun hKey with hWatched | hLeft | hCovered
  · exact h.kept hAttached watchedKeys _ hLoop name key nofun hKey hWatched
  · cases hLeft
  · exact hCovered

theorem Tended.startNode (h : Tended parses state) : Tended parses state.startNode := by
  rw [WatchState.startNode]
  split
  · rename_i hNode
    have hNone : state.dhtManager = none := by
      have hManaged := h.managed
      rw [Option.isNone_iff_eq_none.mp hNode] at hManaged
      exact Option.isSome_eq_false_iff.mp hManaged.symm |> Option.isNone_iff_eq_none.mp
    refine ⟨h.session, rfl, fun key hKey => ?_, (fun hAttached => nomatch hAttached), fun hAttached => nomatch hAttached⟩
    obtain ⟨manager, -, hManager, -⟩ := h.known key hKey
    rw [hNone] at hManager
    cases hManager
  · exact h

theorem Tended.login (h : Tended parses state) (friends : WatchedFriends) : Tended parses (state.login friends) := by
  rw [WatchState.login]
  split
  · exact h
  · refine ⟨fun _ => rfl, h.managed, h.known, ?_, ?_⟩
    · intro _ watchedKeys visiting hLoop name key _ _ hWatched
      change (if state.node.isSome then some (SyncLoop.mk ∅ none) else none) = some ⟨watchedKeys, visiting⟩ at hLoop
      split at hLoop
      · cases hLoop
        exact absurd hWatched (Finset.notMem_empty key)
      · cases hLoop
    · intro _ watchedKeys rest hLoop
      change (if state.node.isSome then some (SyncLoop.mk ∅ none) else none) = some ⟨watchedKeys, some rest⟩ at hLoop
      split at hLoop <;> cases hLoop

theorem Tended.logout (h : Tended parses state) : Tended parses state.logout := by
  refine ⟨fun hLoop => absurd rfl hLoop, ?_, fun key hKey => ?_, (fun _ _ _ hLoop => nomatch hLoop),
    fun _ _ _ hLoop => nomatch hLoop⟩
  · exact h.managed.trans Option.isSome_map.symm
  · obtain ⟨hLive, hClosed⟩ := Finset.mem_sdiff.mp hKey
    obtain ⟨manager, friend, hManager, hOpen, -⟩ := h.known key hLive
    rw [hManager] at hClosed
    exact absurd hOpen hClosed

/-- The next friend leaves the list when the loop has seen its key before, or the key is not valid. -/
theorem Tended.passFriend (h : Tended parses state) {watchedKeys : Finset String} {rest : List (String × String)}
    (hLoop : state.syncLoop = some ⟨watchedKeys, some ((friendKey, dhtKey) :: rest)⟩)
    (hSeen : parses dhtKey = true → dhtKey ∈ watchedKeys) :
    Tended parses { state with syncLoop := some ⟨watchedKeys, some rest⟩ } where
  session _ := h.session (by rw [hLoop]; exact Option.some_ne_none _)
  managed := h.managed
  known := h.known
  kept hAttached later visiting hLater name key hSkip hKey hWatched := by
    cases hLater
    exact h.kept hAttached watchedKeys _ hLoop name key hSkip hKey hWatched
  visited hAttached later left hLater name key hSkip hKey := by
    cases hLater
    rcases h.visited hAttached watchedKeys _ hLoop name key hSkip hKey with hWatched | hLeft | hCovered
    · exact .inl hWatched
    · rcases List.mem_cons.mp hLeft with hThis | hRest
      · cases hThis
        exact .inl (hSeen hKey.2.2)
      · exact .inr (.inl hRest)
    · exact .inr (.inr hCovered)

/-- The next friend is tried: its key counts as watched from now on. -/
theorem Tended.insertWatched (h : Tended parses state) {watchedKeys : Finset String} {rest : List (String × String)}
    (hLoop : state.syncLoop = some ⟨watchedKeys, some ((friendKey, dhtKey) :: rest)⟩)
    (hCovered : state.isAttached = true → ∀ name, HasKey parses state name dhtKey → state.Covered name dhtKey) :
    Tended parses { state with syncLoop := some ⟨insert dhtKey watchedKeys, some rest⟩ } where
  session _ := h.session (by rw [hLoop]; exact Option.some_ne_none _)
  managed := h.managed
  known := h.known
  kept hAttached later visiting hLater name key hSkip hKey hWatched := by
    cases hLater
    rcases Finset.mem_insert.mp hWatched with rfl | hOld
    · exact hCovered hAttached name hKey
    · exact h.kept hAttached watchedKeys _ hLoop name key hSkip hKey hOld
  visited hAttached later left hLater name key hSkip hKey := by
    cases hLater
    rcases h.visited hAttached watchedKeys _ hLoop name key hSkip hKey with hWatched | hLeft | hOld
    · exact .inl (Finset.mem_insert_of_mem hWatched)
    · rcases List.mem_cons.mp hLeft with hThis | hRest
      · cases hThis
        exact .inl (Finset.mem_insert_self _ _)
      · exact .inr (.inl hRest)
    · exact .inr (.inr hOld)

theorem Tended.register (h : Tended parses state) : Tended parses (state.registerFriendDhtKey dhtKey friendKey) where
  session := h.session
  managed := h.managed.trans Option.isSome_map.symm
  known key hKey := (h.known key hKey).note
  kept := h.kept
  visited := h.visited

/-- The call does not look at the loop. -/
theorem watchFriend_withLoop (loop : Option SyncLoop) :
    WatchState.watchFriend parses { state with syncLoop := loop } friendKey dhtKey outcome =
      ({ (state.watchFriend parses friendKey dhtKey outcome).1 with syncLoop := loop },
        (state.watchFriend parses friendKey dhtKey outcome).2) := by
  unfold WatchState.watchFriend
  have hNode : (WatchState.noteFriendKey { state with syncLoop := loop } friendKey dhtKey).node = state.node := rfl
  have hSame : (state.noteFriendKey friendKey dhtKey).node = state.node := rfl
  simp only [hNode, hSame]
  split
  · rfl
  · split
    · rfl
    · cases outcome <;> rfl

theorem Tended.visitFriend (h : Tended parses state) (hMeets : state.Meets parses (.visitFriend outcome)) :
    Tended parses (state.visitFriend parses outcome) := by
  unfold WatchState.visitFriend
  split
  · rename_i watchedKeys friendKey dhtKey rest hLoop
    cases hParses : parses dhtKey with
    | false => exact h.passFriend hLoop fun hTrue => absurd (hParses.symm.trans hTrue) Bool.noConfusion
    | true =>
      by_cases hSeen : dhtKey ∈ watchedKeys
      · simp only [Bool.not_true, Bool.false_eq_true, if_false, if_pos hSeen]
        exact (h.passFriend hLoop fun _ => hSeen).register
      · have hSafe : state.isAttached = true → (state.registerFriendDhtKey dhtKey friendKey).Safe friendKey dhtKey outcome :=
          fun hAttached => hMeets hAttached watchedKeys friendKey dhtKey rest hLoop hParses hSeen
        have hTried : Tended parses
            ((state.registerFriendDhtKey dhtKey friendKey).watchFriend parses friendKey dhtKey outcome).1 :=
          (h.register.but (some dhtKey)).watchFriend fun hAttached _ => hSafe hAttached
        have hOk : ((state.registerFriendDhtKey dhtKey friendKey).watchFriend parses friendKey dhtKey outcome).2 = true :=
          ok_watchFriend hParses
        have hCall : WatchState.watchFriend parses (WatchState.registerFriendDhtKey
            { state with syncLoop := some ⟨watchedKeys, some rest⟩ } dhtKey friendKey) friendKey dhtKey outcome =
            ({ ((state.registerFriendDhtKey dhtKey friendKey).watchFriend parses friendKey dhtKey outcome).1 with
              syncLoop := some ⟨watchedKeys, some rest⟩ }, true) := by
          rw [← hOk]
          exact @watchFriend_withLoop parses (state.registerFriendDhtKey dhtKey friendKey) friendKey dhtKey outcome
            (some ⟨watchedKeys, some rest⟩)
        simp only [Bool.not_true, Bool.false_eq_true, if_false, if_neg hSeen, hCall]
        refine hTried.insertWatched (watchFriend_frame.2.2.1.trans hLoop) fun hAttached name hKey => ?_
        rw [isAttached_watchFriend] at hAttached
        exact covered_of_safe (node_of_isAttached hAttached) (hSafe hAttached) hKey
  · exact h

/-! ### The network comes and goes -/

theorem allCovered_invalidate : state.invalidateAllWatches.AllCovered parses := by
  intro name key hKey
  refine .inr (Finset.mem_union_right _ (List.mem_toFinset.mpr (List.mem_filter.mpr ⟨hKey.1, ?_⟩)))
  have hRecord : state.friends.dhtRecordKey name = some key := hKey.2.1
  rw [hRecord]
  rfl

theorem tended_of_allCovered (hSession : state.syncLoop ≠ none → state.loggedIn = true)
    (hManaged : state.node.isSome = state.dhtManager.isSome) (hKnown : ∀ key ∈ state.liveWatches, state.KnownKey key)
    (hAll : state.isAttached = true → state.syncLoop ≠ none → state.AllCovered parses) : Tended parses state where
  session := hSession
  managed := hManaged
  known := hKnown
  kept hAttached watchedKeys visiting hLoop name key _ hKey _ :=
    hAll hAttached (by rw [hLoop]; exact Option.some_ne_none _) name key hKey
  visited hAttached watchedKeys rest hLoop name key _ hKey :=
    .inr (.inr (hAll hAttached (by rw [hLoop]; exact Option.some_ne_none _) name key hKey))

/-- The node and the watches after an attachment event. -/
def reattach (state : WatchState) (attached publicInternetReady : Bool) : WatchState :=
  { state with
    node := state.node.map fun _ => { isAttached := attached, publicInternetReady }
    liveWatches := if attached then state.liveWatches else ∅ }

theorem handleAttachment_eq (attached publicInternetReady : Bool) :
    state.handleAttachment attached publicInternetReady =
      if (!state.isAttached && attached) && publicInternetReady && state.loggedIn then
        (state.reattach attached publicInternetReady).invalidateAllWatches
      else state.reattach attached publicInternetReady := rfl

theorem known_reattach (h : Tended parses state) (attached publicInternetReady : Bool) :
    ∀ key ∈ (state.reattach attached publicInternetReady).liveWatches, state.KnownKey key := by
  intro key hKey
  cases attached with
  | false => exact absurd hKey (Finset.notMem_empty key)
  | true => exact h.known key hKey

theorem Tended.handleAttachment (h : Tended parses state) {attached publicInternetReady : Bool}
    (hMeets : state.Meets parses (.attachment attached publicInternetReady)) :
    Tended parses (state.handleAttachment attached publicInternetReady) := by
  have hManaged : (state.reattach attached publicInternetReady).node.isSome = state.dhtManager.isSome :=
    Option.isSome_map.trans h.managed
  rw [handleAttachment_eq]
  split
  · exact tended_of_allCovered h.session hManaged (known_reattach h attached publicInternetReady)
      fun _ _ => allCovered_invalidate
  · rename_i hNot
    cases attached with
    | false =>
      refine tended_of_allCovered h.session hManaged (known_reattach h false publicInternetReady) fun hAttached => ?_
      cases hNode : state.node <;> rw [isAttached, reattach, hNode] at hAttached <;> cases hAttached
    | true =>
      cases hBefore : state.isAttached with
      | true => exact ⟨h.session, hManaged, h.known, fun _ => h.kept hBefore, fun _ => h.visited hBefore⟩
      | false =>
        -- the loop has not begun, or has not watched anybody yet
        have hLoop : state.syncLoop = none ∨ state.syncLoop = some ⟨∅, none⟩ := by
          rcases hMeets rfl with hReady | hAttached | hLoop
          · rw [hBefore, hReady] at hNot
            refine .inl (Classical.byContradiction fun hSome => hNot ?_)
            rw [h.session hSome]
            rfl
          · rw [hBefore] at hAttached
            cases hAttached
          · exact hLoop
        refine ⟨h.session, hManaged, h.known, fun _ watchedKeys visiting hNow name key _ _ hWatched => ?_,
          fun _ watchedKeys rest hNow => ?_⟩
        · change state.syncLoop = _ at hNow
          rcases hLoop with hNone | hFresh
          · rw [hNone] at hNow
            cases hNow
          · rw [hFresh] at hNow
            cases hNow
            exact absurd hWatched (Finset.notMem_empty key)
        · change state.syncLoop = _ at hNow
          rcases hLoop with hNone | hFresh
          · rw [hNone] at hNow
            cases hNow
          · rw [hFresh] at hNow
            cases hNow

/-! ### Runs -/

theorem tended_step (event : WatchEvent) (h : Tended parses state) (hMeets : state.Meets parses event) :
    Tended parses (state.step parses event) := by
  cases event with
  | startNode => exact h.startNode
  | attachment attached publicInternetReady => exact h.handleAttachment hMeets
  | login friends => exact h.login friends
  | logout => exact h.logout
  | beginTick => exact h.beginTick
  | visitFriend outcome => exact h.visitFriend hMeets
  | endTick => exact h.endTick
  | watch friendKey dhtKey outcome => exact (h.but (some dhtKey)).watchFriend hMeets
  | valueChange dhtKey subkeys count outcome => exact h.valueChange subkeys count hMeets

/-- In a run whose events meet the condition, every completed tick leaves every friend watched or polled. -/
theorem every_friend_watched_or_polled (parses : String → Bool) (events : List WatchEvent)
    (hMeets : Along (step parses) (Meets parses) initial events) :
    Along (step parses) (fun state event =>
      state.CompletesTick event → (state.step parses event).isAttached = true →
        (state.step parses event).AllCovered parses) initial events := by
  refine (Along.of_invariant (Tended parses) (fun state event hTended hEvent => ?_) tended_initial hMeets).1
  refine ⟨tended_step event hTended hEvent, ?_⟩
  rintro ⟨⟨watchedKeys, hLoop⟩, rfl⟩ hAttached
  have hEnd : state.step parses .endTick = { state with syncLoop := some ⟨watchedKeys, none⟩ } := by
    change state.endTick = _
    rw [endTick, hLoop]
  rw [hEnd] at hAttached ⊢
  exact hTended.allCovered hAttached hLoop

def oneFriend : WatchedFriends where
  names := ["bob"]
  dhtRecordKey _ := some "profile"

/-- A session with one friend, up to the first tick. -/
def firstTick : List WatchEvent := [.startNode, .attachment true true, .login oneFriend, .beginTick]

/-- The watch is made, dies and is made again, and the network goes and comes back. -/
def steadyRun : List WatchEvent :=
  firstTick ++ [.visitFriend .active, .endTick, .valueChange "profile" [] 0 .active, .attachment false false,
    .attachment true true, .beginTick, .visitFriend .active, .endTick]

theorem every_friend_watched_or_polled_steady :
    Along (step fun _ => true) (fun state event =>
      state.CompletesTick event → (state.step (fun _ => true) event).isAttached = true →
        (state.step (fun _ => true) event).AllCovered fun _ => true) initial steadyRun := by
  apply every_friend_watched_or_polled
  refine ⟨trivial, fun _ => .inl rfl, trivial, trivial, fun _ _ _ _ _ _ _ _ => .inl rfl, trivial, ?_⟩
  refine ⟨fun _ _ _ _ _ => .inl rfl, fun hDetached => absurd hDetached Bool.false_ne_true, fun _ => .inl rfl, ?_⟩
  exact ⟨trivial, fun _ _ _ _ _ _ _ _ => .inl rfl, trivial, trivial⟩

/-- The record of the friend cannot be opened once. Neither this tick nor the later ones, which could
watch it, cover the friend. -/
theorem failed_open_freezes_presence :
    ¬ Along (step fun _ => true) (fun state event =>
      state.CompletesTick event → (state.step (fun _ => true) event).isAttached = true →
        (state.step (fun _ => true) event).AllCovered fun _ => true) initial
      (firstTick ++ [.visitFriend .openFailed] ++ [.endTick]) ∧
    ¬ (final (step fun _ => true) initial (firstTick ++ [.visitFriend .openFailed, .endTick] ++
      [.beginTick, .visitFriend .active, .endTick, .beginTick, .visitFriend .active, .endTick])).AllCovered
        fun _ => true := by
  constructor
  · intro hRun
    have hBob := hRun.last ⟨⟨{"profile"}, by decide +kernel⟩, rfl⟩ (by decide +kernel) "bob" "profile"
      ⟨by decide +kernel, by decide +kernel, rfl⟩
    exact absurd hBob (by unfold Covered; decide +kernel)
  · intro hAll
    have hBob := hAll "bob" "profile" ⟨by decide +kernel, by decide +kernel, rfl⟩
    exact absurd hBob (by unfold Covered; decide +kernel)

end WatchState

end Rekindle.Client
