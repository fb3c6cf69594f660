import Mathlib.Data.List.Nodup
import Rekindle.Client.PresenceFormats
import Rekindle.Client.Watches

/-! # Dispatch of changed DHT values

An event names the subkeys of a record that have changed, in order, and may carry the value of the
first of them.
-/
namespace Rekindle.Client
set_option autoImplicit false
open Protocol (Bytes)

/-- The record that an event is about, as the client knows it. -/
inductive WatchedRecord where
  | friend (friendKey : String)
  | community (communityId : String)
  | unknown
  deriving DecidableEq

inductive PresenceHandler where
  | status
  | game
  | route
  | metadata
  | channelList
  | memberList
  | roles
  | mek
  | serverRoute
  deriving DecidableEq

/-- A handler that has been called for a subkey, and the value that it parses, if any. -/
structure HandlerCall where
  subkey : Nat
  handler : PresenceHandler
  value : Option Bytes
  deriving DecidableEq

/-- `VeilidValueChange`. The changed subkeys are a set of ranges, which is gone through in order. -/
structure ValueChange where
  subkeys : List Nat
  count : Nat
  value : Option Bytes
  sorted : subkeys.Pairwise (· < ·)

/-- What the client finds while it handles an event: the values of the record in the network, the reads
that fail, and what a read returns that does not insist on the network. -/
structure EventNetwork where
  node : Option WatchNode
  current : Nat → Option Bytes
  fetchFails : Nat → Bool
  stored : Nat → Except String (Option Bytes)

namespace EventNetwork

/-- `get_dht_value` with `force_refresh`. -/
def fetch (network : EventNetwork) (subkey : Nat) : Except String (Option Bytes) :=
  if network.fetchFails subkey then .error "failed to fetch subkey" else .ok (network.current subkey)

/-- `mgr.get_value(..).await.ok().flatten()`, where there is a manager only on a node that is attached. -/
def reread (network : EventNetwork) (subkey : Nat) : Option Bytes :=
  if network.node.any WatchNode.isAttached then (network.stored subkey).toOption.join else none

end EventNetwork

section
variable (network : EventNetwork)

/-- A handler that reads the subkey again, and does nothing without a value. -/
def rereadCall (handler : PresenceHandler) (subkey : Nat) : List HandlerCall :=
  match network.reread subkey with
  | some data => [⟨subkey, handler, some data⟩]
  | none => []

/-- The metadata handler prefers the value that it is given. -/
def metadataCall (value : Bytes) : List HandlerCall :=
  if value ≠ [] then [⟨0, .metadata, some value⟩] else rereadCall network .metadata 0

def handleCommunityValueChange (subkeys : List Nat) (value : Bytes) : List HandlerCall :=
  subkeys.flatMap fun subkey =>
    match subkey with
    | 0 => metadataCall network value
    | 1 => rereadCall network .channelList 1
    | 2 => rereadCall network .memberList 2
    | 3 => rereadCall network .roles 3
    | 5 => [⟨5, .mek, none⟩]
    | 6 => rereadCall network .serverRoute 6
    | _ => []

/-- `handle_value_change` of the presence service. -/
def presenceValueChange (record : WatchedRecord) (subkeys : List Nat) (value : Bytes) : List HandlerCall :=
  match record with
  | .friend _ =>
    subkeys.flatMap fun subkey =>
      match subkey with
      | 2 => [⟨2, .status, some value⟩]
      | 4 => [⟨4, .game, some value⟩]
      | 6 => [⟨6, .route, some value⟩]
      | _ => []
  | .community _ => handleCommunityValueChange network subkeys value
  | .unknown => []

/-- The value with which a changed subkey is passed on. -/
def passedValue (change : ValueChange) (subkey : Nat) : Option Bytes :=
  match change.value with
  | some value => some value
  | none =>
    if network.node.isSome then
      match network.fetch subkey with
      | .ok value => value
      | .error _ => none
    else none

/-- `handle_value_change` of the dispatch loop: the handlers it calls. For the watch itself see
`WatchState.handleValueChange`. -/
def dispatchValueChange (record : WatchedRecord) (change : ValueChange) : List HandlerCall :=
  change.subkeys.flatMap fun subkey =>
    match passedValue network change subkey with
    | some value => presenceValueChange network record [subkey] value
    | none => []

end

/-- The call's effect on a friend. -/
def HandlerCall.run (parseGame : Bytes → Option GameInfoState) (imports : Bytes → Bool) (now : Int64)
    (friend : FriendPresence) (call : HandlerCall) : FriendPresence :=
  match call.handler, call.value with
  | .status, some value => handleStatusChange now friend value
  | .game, some value => handleGameChange parseGame friend value
  | .route, some value => handleRouteChange imports friend value
  | _, _ => friend

/-! ## What an event should lead to -/

/-- The handler for a subkey of a record. -/
def handlerFor (record : WatchedRecord) (subkey : Nat) : Option PresenceHandler :=
  match record, subkey with
  | .friend _, 2 => some .status
  | .friend _, 4 => some .game
  | .friend _, 6 => some .route
  | .community _, 0 => some .metadata
  | .community _, 1 => some .channelList
  | .community _, 2 => some .memberList
  | .community _, 3 => some .roles
  | .community _, 5 => some .mek
  | .community _, 6 => some .serverRoute
  | _, _ => none

/-- One call of the handler, with the value. A new MEK is asked of the server instead. -/
def properCall (subkey : Nat) (value : Bytes) : PresenceHandler → HandlerCall
  | .mek => ⟨subkey, .mek, none⟩
  | handler => ⟨subkey, handler, some value⟩

/-- The handler of the subkey is called once, with the value, and none parses a value if there is none. -/
def ProperlyCalled (network : EventNetwork) (record : WatchedRecord) (subkey : Nat) (calls : List HandlerCall) : Prop :=
  match network.current subkey with
  | some value => calls = (handlerFor record subkey).toList.map (properCall subkey value)
  | none => ∀ call ∈ calls, call.value = none

/-- Each changed subkey that has a value is handled once with its own value. -/
def EachHandledOnce (network : EventNetwork) (record : WatchedRecord) (change : ValueChange) : Prop :=
  ∀ subkey ∈ change.subkeys, ProperlyCalled network record subkey
    ((dispatchValueChange network record change).filter fun call => call.subkey == subkey)

/-- The value that comes with an event is that of its first subkey. -/
def InlineIsFirst (network : EventNetwork) (change : ValueChange) : Prop :=
  ∀ value first, change.value = some value → change.subkeys.head? = some first → network.current first = some value

/-- A value is passed on for the subkey: that of the event, or one that is fetched. -/
def Passed (network : EventNetwork) (change : ValueChange) (subkey : Nat) : Prop :=
  change.value ≠ none ∨
    network.node.isSome = true ∧ network.fetchFails subkey = false ∧ network.current subkey ≠ none

/-- What the network and the event must provide for a handler. A friend's takes the value of the event for
its own; most of a community's read the subkey again. -/
def Served (network : EventNetwork) (change : ValueChange) (subkey : Nat) : PresenceHandler → Prop
  | .status | .game | .route =>
    (∀ value, change.value = some value → network.current subkey = some value) ∧
      (network.current subkey ≠ none → Passed network change subkey)
  | .metadata =>
    network.current subkey ≠ none →
      Passed network change subkey ∧ (network.current subkey = some [] → network.reread subkey = some [])
  | .mek => network.current subkey ≠ none → Passed network change subkey
  | .channelList | .memberList | .roles | .serverRoute =>
    (Passed network change subkey → network.reread subkey = network.current subkey) ∧
      (network.current subkey ≠ none → Passed network change subkey)

/-! ## The calls for one subkey -/

/-- The calls that a value leads to. -/
def callsWith (network : EventNetwork) (subkey : Nat) (value : Bytes) : PresenceHandler → List HandlerCall
  | .metadata => metadataCall network value
  | .mek => [⟨subkey, .mek, none⟩]
  | .status => [⟨subkey, .status, some value⟩]
  | .game => [⟨subkey, .game, some value⟩]
  | .route => [⟨subkey, .route, some value⟩]
  | handler => rereadCall network handler subkey

section
variable {network : EventNetwork} {record : WatchedRecord} {change : ValueChange} {subkey : Nat} {value : Bytes}
  {handler : PresenceHandler} {call : HandlerCall}

theorem presenceValueChange_eq (record : WatchedRecord) : presenceValueChange network record [subkey] value =
    (handlerFor record subkey).toList.flatMap (callsWith network subkey value) := by
  cases record with
  | friend =>
    match subkey with
    | 0 | 1 | 2 | 3 | 4 | 5 | 6 | _ + 7 => simp [presenceValueChange, handlerFor, callsWith]
  | community =>
    match subkey with
    | 0 | 1 | 2 | 3 | 4 | 5 | 6 | _ + 7 =>
      simp [presenceValueChange, handleCommunityValueChange, handlerFor, callsWith]
  | unknown => rfl

theorem eq_zero_of_metadata (h : handlerFor record subkey = some .metadata) : subkey = 0 := by
  cases record with
  | friend | community =>
    match subkey, h with
    | 0, _ => rfl
    | 1, h | 2, h | 3, h | 4, h | 5, h | 6, h | _ + 7, h => cases h
  | unknown => cases h

theorem subkey_of_rereadCall (h : call ∈ rereadCall network handler subkey) : call.subkey = subkey := by
  rw [rereadCall] at h
  split at h
  · rw [List.mem_singleton.mp h]
  · cases h

theorem subkey_of_callsWith (hHandler : handlerFor record subkey = some handler)
    (h : call ∈ callsWith network subkey value handler) : call.subkey = subkey := by
  cases handler with
  | metadata =>
    rw [eq_zero_of_metadata hHandler]
    rw [callsWith, metadataCall] at h
    split at h
    · rw [List.mem_singleton.mp h]
    · exact subkey_of_rereadCall h
  | mek | status | game | route => rw [List.mem_singleton.mp h]
  | channelList | memberList | roles | serverRoute => exact subkey_of_rereadCall h

/-- The calls that the loop makes for one subkey. -/
def callsFor (network : EventNetwork) (record : WatchedRecord) (change : ValueChange) (subkey : Nat) : List HandlerCall :=
  match passedValue network change subkey with
  | some value => presenceValueChange network record [subkey] value
  | none => []

theorem subkey_of_callsFor (h : call ∈ callsFor network record change subkey) : call.subkey = subkey := by
  rw [callsFor] at h
  split at h
  · rw [presenceValueChange_eq] at h
    obtain ⟨handler, hHandler, hCall⟩ := List.mem_flatMap.mp h
    exact subkey_of_callsWith (Option.mem_toList.mp hHandler) hCall
  · cases h

theorem filter_flatMap_callsFor {subkeys : List Nat} (hDistinct : subkeys.Nodup) (h : subkey ∈ subkeys) :
    (subkeys.flatMap (callsFor network record change)).filter (fun call => call.subkey == subkey) =
      callsFor network record change subkey := by
  have hOwn : (callsFor network record change subkey).filter (fun call => call.subkey == subkey) =
      callsFor network record change subkey :=
    List.filter_eq_self.mpr fun call hCall => beq_iff_eq.mpr (subkey_of_callsFor hCall)
  have hOthers {others : List Nat} (hNone : subkey ∉ others) :
      (others.flatMap (callsFor network record change)).filter (fun call => call.subkey == subkey) = [] := by
    rw [List.filter_eq_nil_iff]
    intro call hCall hSame
    obtain ⟨other, hOther, hCall⟩ := List.mem_flatMap.mp hCall
    have hEq : other = subkey := (subkey_of_callsFor hCall).symm.trans (beq_iff_eq.mp hSame)
    exact hNone (hEq ▸ hOther)
  obtain ⟨before, after, rfl⟩ := List.append_of_mem h
  rw [List.nodup_append, List.nodup_cons] at hDistinct
  have hBefore : subkey ∉ before := fun hMem => hDistinct.2.2 subkey hMem subkey List.mem_cons_self rfl
  rw [List.flatMap_append, List.flatMap_cons, List.filter_append, List.filter_append, hOwn, hOthers hBefore,
    hOthers hDistinct.2.1.1, List.nil_append, List.append_nil]

/-- The value of the event is passed on, or a fetched one, or nothing. -/
theorem passedValue_cases (network : EventNetwork) (change : ValueChange) (subkey : Nat) :
    (∃ value, change.value = some value ∧ passedValue network change subkey = some value) ∨
      (∃ value, change.value = none ∧ Passed network change subkey ∧ network.current subkey = some value ∧
        passedValue network change subkey = some value) ∨
      change.value = none ∧ ¬Passed network change subkey ∧ passedValue network change subkey = none := by
  cases hInline : change.value with
  | some value => exact .inl ⟨value, rfl, by rw [passedValue, hInline]⟩
  | none =>
    simp only [passedValue, hInline, EventNetwork.fetch, Passed]
    cases network.node <;> cases network.fetchFails subkey <;> cases network.current subkey <;> simp

theorem Passed.of_inline (h : change.value = some value) : Passed network change subkey := by
  rw [Passed, h]
  exact .inl (Option.some_ne_none value)

/-- The subkeys come in order, so the value of the event is that of subkey 0 if that has changed. -/
theorem current_zero_of_inline (hInline : InlineIsFirst network change) (h : 0 ∈ change.subkeys)
    (hValue : change.value = some value) : network.current 0 = some value := by
  have hSorted := change.sorted
  cases hSubkeys : change.subkeys with
  | nil =>
    rw [hSubkeys] at h
    cases h
  | cons first rest =>
    rw [hSubkeys] at h hSorted
    have hFirst : first = 0 := by
      obtain hEq | hRest := List.mem_cons.mp h
      · exact hEq.symm
      · exact absurd ((List.pairwise_cons.mp hSorted).1 0 hRest) (Nat.not_lt_zero first)
    exact hInline value 0 hValue (by rw [hSubkeys, hFirst]; rfl)

theorem passedValue_isSome : (passedValue network change subkey).isSome = true ↔ Passed network change subkey := by
  rcases passedValue_cases network change subkey with
    ⟨value, hValue, hPassed⟩ | ⟨value, hValue, hReaches, hCurrent, hPassed⟩ | ⟨hValue, hReaches, hPassed⟩
  · rw [hPassed]
    exact iff_of_true rfl (Passed.of_inline hValue)
  · rw [hPassed]
    exact iff_of_true rfl hReaches
  · rw [hPassed]
    exact iff_of_false Bool.false_ne_true hReaches

theorem ProperlyCalled.of_handler (hHandler : handlerFor record subkey = some handler) {calls : List HandlerCall} :
    ProperlyCalled network record subkey calls ↔
      (∀ value, network.current subkey = some value → calls = [properCall subkey value handler]) ∧
        (network.current subkey = none → ∀ call ∈ calls, call.value = none) := by
  rw [ProperlyCalled, hHandler]
  cases network.current subkey <;> simp

theorem callsFor_eq : callsFor network record change subkey =
    (passedValue network change subkey).toList.flatMap fun value =>
      (handlerFor record subkey).toList.flatMap (callsWith network subkey value) := by
  rw [callsFor]
  cases passedValue network change subkey with
  | none => rfl
  | some value =>
    rw [Option.toList_some, List.flatMap_singleton]
    exact presenceValueChange_eq record

theorem callsFor_of_handler (hHandler : handlerFor record subkey = some handler) :
    callsFor network record change subkey =
      (passedValue network change subkey).toList.flatMap fun value => callsWith network subkey value handler := by
  simp only [callsFor_eq, hHandler, Option.toList_some, List.flatMap_singleton]

/-- A handler that parses what it is passed. -/
theorem parses_passed_iff (proper : Bytes → HandlerCall) (hProper : ∀ value, (proper value).value = some value) :
    ((∀ value, network.current subkey = some value →
        (passedValue network change subkey).toList.map proper = [proper value]) ∧
      (network.current subkey = none →
        ∀ call ∈ (passedValue network change subkey).toList.map proper, call.value = none)) ↔
      (∀ value, change.value = some value → network.current subkey = some value) ∧
        (network.current subkey ≠ none → Passed network change subkey) := by
  have hInjective {first second : Bytes} (h : proper first = proper second) : first = second := by
    have hValues := congrArg HandlerCall.value h
    rw [hProper, hProper] at hValues
    exact Option.some.inj hValues
  rcases passedValue_cases network change subkey with
    ⟨value, hValue, hPassed⟩ | ⟨value, hValue, hReaches, hCurrent, hPassed⟩ | ⟨hValue, hReaches, hPassed⟩
  · -- The value of the event is taken for that of the subkey.
    have hReaches : Passed network change subkey := Passed.of_inline hValue
    rw [hPassed, hValue]
    cases network.current subkey with
    | none => simp [hProper]
    | some own =>
      simp only [Option.toList_some, List.map_cons, List.map_nil, List.cons.injEq, and_true, Option.some.injEq,
        forall_eq', hReaches, implies_true, reduceCtorEq, false_implies]
      exact ⟨fun h => (hInjective h).symm, fun h => congrArg proper h.symm⟩
  · rw [hPassed, hValue, hCurrent]
    simp [hReaches]
  · rw [hPassed, hValue]
    cases network.current subkey <;> simp [hReaches]

/-- A handler that reads the subkey again. -/
theorem rereads_iff :
    ((∀ value, network.current subkey = some value →
        ((passedValue network change subkey).toList.flatMap fun _ => rereadCall network handler subkey) =
          [⟨subkey, handler, some value⟩]) ∧
      (network.current subkey = none →
        ∀ call ∈ (passedValue network change subkey).toList.flatMap fun _ => rereadCall network handler subkey,
          call.value = none)) ↔
      (Passed network change subkey → network.reread subkey = network.current subkey) ∧
        (network.current subkey ≠ none → Passed network change subkey) := by
  rw [← passedValue_isSome]
  cases passedValue network change subkey with
  | none => cases network.current subkey <;> simp
  | some value =>
    simp only [Option.toList_some, List.flatMap_cons, List.flatMap_nil, List.append_nil, rereadCall]
    cases network.current subkey <;> cases network.reread subkey <;> simp

/-- The handler of the metadata, whose value is never that of another subkey. -/
theorem metadata_iff (hInline : InlineIsFirst network change) (h : 0 ∈ change.subkeys) :
    ((∀ value, network.current 0 = some value →
        ((passedValue network change 0).toList.flatMap fun passed => metadataCall network passed) =
          [⟨0, .metadata, some value⟩]) ∧
      (network.current 0 = none →
        ∀ call ∈ (passedValue network change 0).toList.flatMap fun passed => metadataCall network passed,
          call.value = none)) ↔
      (network.current 0 ≠ none →
        Passed network change 0 ∧ (network.current 0 = some [] → network.reread 0 = some [])) := by
  have hOwn (value : Bytes) (hPassed : passedValue network change 0 = some value) :
      network.current 0 = some value := by
    rcases passedValue_cases network change 0 with
      ⟨inline, hValue, hSame⟩ | ⟨fetched, -, -, hCurrent, hSame⟩ | ⟨-, -, hNone⟩
    · rw [current_zero_of_inline hInline h hValue, ← hSame, hPassed]
    · rw [hCurrent, ← hSame, hPassed]
    · rw [hPassed] at hNone
      cases hNone
  rw [← passedValue_isSome]
  cases hPassed : passedValue network change 0 with
  | none => cases network.current 0 <;> simp
  | some value =>
    rw [hOwn value hPassed]
    by_cases hEmpty : value = []
    · subst hEmpty
      simp only [Option.toList_some, List.flatMap_cons, List.flatMap_nil, List.append_nil, metadataCall, rereadCall]
      cases network.reread 0 <;> simp
    · simp [metadataCall, hEmpty]

theorem mek_iff :
    ((∀ value, network.current subkey = some value →
        ((passedValue network change subkey).toList.flatMap fun _ => [HandlerCall.mk subkey .mek none]) =
          [⟨subkey, .mek, none⟩]) ∧
      (network.current subkey = none →
        ∀ call ∈ (passedValue network change subkey).toList.flatMap fun _ => [HandlerCall.mk subkey .mek none],
          call.value = none)) ↔
      (network.current subkey ≠ none → Passed network change subkey) := by
  rw [← passedValue_isSome]
  cases passedValue network change subkey <;> cases network.current subkey <;> simp

/-- Whether the calls for a subkey are the proper ones depends on what is provided for its handler. -/
theorem properlyCalled_iff (hInline : InlineIsFirst network change) (h : subkey ∈ change.subkeys) :
    ProperlyCalled network record subkey (callsFor network record change subkey) ↔
      ∀ handler, handlerFor record subkey = some handler → Served network change subkey handler := by
  cases hHandler : handlerFor record subkey with
  | none =>
    have hNothing : callsFor network record change subkey = [] := by
      simp only [callsFor_eq, hHandler, Option.toList_none, List.flatMap_nil]
      simp
    rw [ProperlyCalled, hNothing, hHandler]
    cases network.current subkey <;> simp
  | some handler =>
    rw [ProperlyCalled.of_handler hHandler, callsFor_of_handler hHandler]
    simp only [Option.some.injEq, forall_eq']
    cases handler with
    | metadata =>
      obtain rfl := eq_zero_of_metadata hHandler
      exact metadata_iff hInline h
    | mek => exact mek_iff
    | status | game | route =>
      simp only [callsWith, ← List.map_eq_flatMap]
      exact parses_passed_iff _ fun _ => rfl
    | channelList | memberList | roles | serverRoute => exact rereads_iff

/-- An event is handled as it should be if and only if each changed subkey with a handler is provided for. -/
theorem value_change_dispatch_iff (hInline : InlineIsFirst network change) :
    EachHandledOnce network record change ↔
      ∀ subkey ∈ change.subkeys, ∀ handler, handlerFor record subkey = some handler →
        Served network change subkey handler := by
  have hDistinct : change.subkeys.Nodup := change.sorted.imp fun hLess => Nat.ne_of_lt hLess
  apply forall₂_congr
  intro subkey h
  rw [← properlyCalled_iff hInline h]
  exact iff_of_eq (congrArg (ProperlyCalled network record subkey) (filter_flatMap_callsFor hDistinct h))

end

/-! ## A friend's event -/

def HandlerCall.runAll (parseGame : Bytes → Option GameInfoState) (imports : Bytes → Bool) (now : Int64)
    (friend : FriendPresence) (calls : List HandlerCall) : FriendPresence :=
  calls.foldl (HandlerCall.run parseGame imports now) friend

/-- The calls for the changed subkeys of a friend's record that have a value, in order. -/
def friendCalls (network : EventNetwork) (friendKey : String) (subkeys : List Nat) : List HandlerCall :=
  subkeys.flatMap fun subkey =>
    (network.current subkey).toList.flatMap fun value =>
      (handlerFor (.friend friendKey) subkey).toList.map (properCall subkey value)

section
variable {network : EventNetwork} {change : ValueChange} {friendKey : String}

theorem value_of_friend_call {subkey : Nat} {call : HandlerCall}
    (h : call ∈ callsFor network (.friend friendKey) change subkey) : call.value ≠ none := by
  rw [callsFor_eq] at h
  obtain ⟨value, -, hCall⟩ := List.mem_flatMap.mp h
  obtain ⟨handler, hHandler, hCall⟩ := List.mem_flatMap.mp hCall
  rw [Option.mem_toList] at hHandler
  match subkey, hHandler with
  | 2, hHandler | 4, hHandler | 6, hHandler =>
    cases hHandler
    rw [List.mem_singleton.mp hCall]
    exact Option.some_ne_none value
  | 0, h | 1, h | 3, h | 5, h | _ + 7, h => cases h

/-- An event that is handled as it should be leaves the friend as the handlers leave it, each with its own value. -/
theorem friend_after_value_change (h : EachHandledOnce network (.friend friendKey) change)
    (parseGame : Bytes → Option GameInfoState) (imports : Bytes → Bool) (now : Int64) (friend : FriendPresence) :
    HandlerCall.runAll parseGame imports now friend (dispatchValueChange network (.friend friendKey) change) =
      HandlerCall.runAll parseGame imports now friend (friendCalls network friendKey change.subkeys) := by
  have hDistinct : change.subkeys.Nodup := change.sorted.imp fun hLess => Nat.ne_of_lt hLess
  have hCalls : dispatchValueChange network (.friend friendKey) change =
      friendCalls network friendKey change.subkeys := by
    apply List.flatMap_congr
    intro subkey hMem
    have hProper : ProperlyCalled network (.friend friendKey) subkey
        (callsFor network (.friend friendKey) change subkey) := by
      rw [← filter_flatMap_callsFor hDistinct hMem]
      exact h subkey hMem
    change callsFor network (.friend friendKey) change subkey = _
    rw [ProperlyCalled] at hProper
    cases hCurrent : network.current subkey with
    | none =>
      rw [hCurrent] at hProper
      apply List.eq_nil_iff_forall_not_mem.mpr
      intro call hCall
      exact value_of_friend_call hCall (hProper call hCall)
    | some value =>
      rw [hCurrent] at hProper
      rw [Option.toList_some, List.flatMap_singleton]
      exact hProper
  rw [hCalls]

end

/-! ## Examples of events -/

/-- A node that reads everything, of a friend who is away and has a route. -/
def awayNetwork : EventNetwork where
  node := some ⟨true, true⟩
  current subkey := if subkey = 2 then some [1] else if subkey = 6 then some [9, 9] else none
  fetchFails _ := false
  stored _ := .ok none

def statusAlone : ValueChange := ⟨[2], 4, some [1], by decide⟩

def statusAndRoute : ValueChange := ⟨[2, 6], 4, some [1], by decide⟩

theorem inlineIsFirst_away {change : ValueChange} (hValue : change.value = some [1]) (hFirst : change.subkeys.head? = some 2) :
    InlineIsFirst awayNetwork change := by
  intro value first hInline hHead
  rw [hValue] at hInline
  rw [hFirst] at hHead
  obtain rfl := Option.some.inj hInline
  obtain rfl := Option.some.inj hHead
  rfl

theorem value_change_dispatch_iff_away :
    EachHandledOnce awayNetwork (.friend "bob") statusAlone ↔
      ∀ subkey ∈ statusAlone.subkeys, ∀ handler, handlerFor (.friend "bob") subkey = some handler →
        Served awayNetwork statusAlone subkey handler :=
  value_change_dispatch_iff (inlineIsFirst_away rfl rfl)

/-- The status of a friend is taken for its route. -/
theorem status_handled_as_route : InlineIsFirst awayNetwork statusAndRoute ∧
    ¬EachHandledOnce awayNetwork (.friend "bob") statusAndRoute := by
  refine ⟨inlineIsFirst_away rfl rfl, fun h => ?_⟩
  have hRoute : (dispatchValueChange awayNetwork (.friend "bob") statusAndRoute).filter (fun call => call.subkey == 6) =
      [⟨6, .route, some [9, 9]⟩] := h 6 (by decide)
  revert hRoute
  decide

end Rekindle.Client
