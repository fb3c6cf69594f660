import Rekindle.Client.Friendships

/-! # Whose presence a record carries

Presence updates are attributed by the record they arrive on. Each operation that touches the map of
records belongs to one peer; the records of other friends stay theirs as long as that peer's keys are
its own.
-/
namespace Rekindle.Client
set_option autoImplicit false

open Runs Signal MemoryStores

namespace AppState

variable (state : AppState)

/-- The friend that an update of the record is taken to be about. -/
def friendForDhtKey (dhtKey : String) : Option String :=
  state.dhtManager.bind fun manager => manager.dhtKeyToFriend.lookup dhtKey

/-- In the friend list, and not being removed. -/
def HasFriend (peer : String) : Prop :=
  ∃ friend, state.friend? peer = some friend ∧ friend.friendshipState ≠ .removing

/-- The peer's record, if it is a friend, leads to the peer. -/
def AttributesTo (peer : String) : Prop :=
  ∀ friend dhtKey, state.friend? peer = some friend → friend.friendshipState ≠ .removing →
    friend.dhtRecordKey = some dhtKey → state.dhtManager ≠ none → state.friendForDhtKey dhtKey = some peer

def Attributes : Prop := ∀ peer, state.AttributesTo peer

/-- No other friend is followed by the record. -/
def FreeFor (peer dhtKey : String) : Prop :=
  ∀ other, other ≠ peer → state.HasFriend other → state.friendForDhtKey dhtKey ≠ some other

/-- What presence depends on. -/
def presence : List FriendState × Option DhtManagerHandle := (state.friends, state.dhtManager)

end AppState

/-- The other friends, and the records that they are followed by, stay. -/
structure SparesOthers (peer : String) (before after : AppState) : Prop where
  friends : ∀ other, other ≠ peer → after.friend? other = before.friend? other
  records : ∀ other, other ≠ peer → before.HasFriend other → ∀ dhtKey,
    after.friendForDhtKey dhtKey = some other ↔ before.friendForDhtKey dhtKey = some other
  manager : after.dhtManager.isSome = before.dhtManager.isSome
  distinct : (before.friends.map FriendState.publicKey).Nodup → (after.friends.map FriendState.publicKey).Nodup

section
variable {peer : String} {state before after last : AppState}

theorem SparesOthers.of_presence (h : after.presence = before.presence) : SparesOthers peer before after := by
  obtain ⟨hFriends, hManager⟩ := Prod.mk.inj h
  refine ⟨fun other _ => ?_, fun other _ _ dhtKey => ?_, ?_, ?_⟩
  · rw [AppState.friend?, AppState.friend?, hFriends]
  · rw [AppState.friendForDhtKey, AppState.friendForDhtKey, hManager]
  · rw [hManager]
  · rw [hFriends]
    exact id

theorem SparesOthers.refl (state : AppState) : SparesOthers peer state state := .of_presence rfl

theorem SparesOthers.hasFriend (h : SparesOthers peer before after) {other : String} (hOther : other ≠ peer) :
    after.HasFriend other ↔ before.HasFriend other := by
  unfold AppState.HasFriend
  rw [h.friends other hOther]

theorem SparesOthers.trans (h : SparesOthers peer before after) (h' : SparesOthers peer after last) :
    SparesOthers peer before last := by
  refine ⟨fun other hOther => ?_, fun other hOther hFriend dhtKey => ?_, h'.manager.trans h.manager,
    h'.distinct ∘ h.distinct⟩
  · rw [h'.friends other hOther, h.friends other hOther]
  · rw [h'.records other hOther ((h.hasFriend hOther).mpr hFriend), h.records other hOther hFriend]

theorem SparesOthers.freeFor (h : SparesOthers peer before after) {dhtKey : String} (hFree : before.FreeFor peer dhtKey) :
    after.FreeFor peer dhtKey := by
  intro other hOther hFriend hFound
  have hBefore := (h.hasFriend hOther).mp hFriend
  exact hFree other hOther hBefore ((h.records other hOther hBefore dhtKey).mp hFound)

/-- A step of one peer keeps attribution if it does at the peer. -/
theorem AppState.Attributes.step (h : before.Attributes) (hSpares : SparesOthers peer before after)
    (hHere : after.AttributesTo peer) : after.Attributes := by
  intro other friend dhtKey hFriend hStays hKey hManager
  by_cases hOther : other = peer
  · subst hOther
    exact hHere friend dhtKey hFriend hStays hKey hManager
  · rw [hSpares.friends other hOther] at hFriend
    have hBefore : before.dhtManager ≠ none := by
      intro hNone
      have hSome := hSpares.manager
      rw [hNone] at hSome
      exact hManager (Option.isNone_iff_eq_none.mp (by simpa using hSome))
    exact (hSpares.records other hOther ⟨friend, hFriend, hStays⟩ dhtKey).mpr
      (h other friend dhtKey hFriend hStays hKey hBefore)

theorem AppState.Attributes.of_presence (h : before.Attributes) (hSame : after.presence = before.presence) :
    after.Attributes := by
  obtain ⟨hFriends, hManager⟩ := Prod.mk.inj hSame
  intro peer friend dhtKey hFriend hStays hKey hSome
  rw [AppState.friend?, hFriends] at hFriend
  rw [hManager] at hSome
  rw [AppState.friendForDhtKey, hManager]
  exact h peer friend dhtKey hFriend hStays hKey hSome

theorem AppState.attributesTo_of_absent (h : state.friend? peer = none) : state.AttributesTo peer := by
  intro friend dhtKey hFriend
  cases h.symm.trans hFriend

/-! ## Entries of one peer -/

theorem spares_updateFriend {change : FriendState → FriendState}
    (hKey : ∀ friend, (change friend).publicKey = friend.publicKey) :
    SparesOthers peer state (state.updateFriend peer change) := by
  refine ⟨fun other hOther => ?_, fun _ _ _ _ => Iff.rfl, rfl, fun hDistinct => ?_⟩
  · rw [state.friend?_updateFriend peer change hKey, if_neg hOther]
  · exact (Keyed.map_key_update hKey).symm ▸ hDistinct

theorem spares_removeFriend : SparesOthers peer state (state.removeFriend peer) := by
  refine ⟨fun other hOther => ?_, fun _ _ _ _ => Iff.rfl, rfl, fun hDistinct => ?_⟩
  · rw [state.friend?_removeFriend, if_neg hOther]
  · exact hDistinct.sublist (List.filter_sublist.map _)

theorem spares_insertFriend {friend : FriendState} (hPublic : friend.publicKey = peer) :
    SparesOthers peer state (state.insertFriend friend) := by
  refine ⟨fun other hOther => ?_, fun _ _ _ _ => Iff.rfl, rfl, Keyed.nodup_insert friend⟩
  rw [state.friend?_insertFriend, if_neg (hPublic ▸ hOther)]

theorem friendForDhtKey_register (dhtKey friendKey other : String) (hManager : state.dhtManager ≠ none) :
    (state.registerFriendDhtKey dhtKey friendKey).friendForDhtKey other =
      if other = dhtKey then some friendKey else state.friendForDhtKey other := by
  unfold AppState.friendForDhtKey AppState.registerFriendDhtKey
  obtain ⟨manager, hSome⟩ := Option.ne_none_iff_exists'.mp hManager
  rw [hSome]
  by_cases hOther : other = dhtKey
  · rw [if_pos hOther, hOther]
    exact Finmap.lookup_insert _
  · rw [if_neg hOther]
    exact Finmap.lookup_insert_of_ne _ hOther

theorem spares_register {dhtKey : String} (hFree : state.FreeFor peer dhtKey) :
    SparesOthers peer state (state.registerFriendDhtKey dhtKey peer) := by
  refine ⟨fun _ _ => rfl, fun other hOther hFriend key => ?_, Option.isSome_map, id⟩
  by_cases hManager : state.dhtManager = none
  · unfold AppState.friendForDhtKey AppState.registerFriendDhtKey
    rw [hManager]
    rfl
  · rw [friendForDhtKey_register dhtKey peer key hManager]
    split
    · next hKey =>
      subst hKey
      exact iff_of_false (fun h => hOther (Option.some.inj h).symm) (hFree other hOther hFriend)
    · exact Iff.rfl

theorem spares_watchFriend {dhtKey : String} (hFree : state.FreeFor peer dhtKey) :
    SparesOthers peer state (state.watchFriend peer dhtKey) :=
  (spares_register hFree).trans (spares_updateFriend fun _ => rfl)

theorem attributesTo_watchFriend (dhtKey : String) : (state.watchFriend peer dhtKey).AttributesTo peer := by
  intro friend key hFriend _ hKey hManager
  have hBefore : state.dhtManager ≠ none := by
    intro hNone
    apply hManager
    change state.dhtManager.map _ = none
    rw [hNone]
    rfl
  rw [AppState.watchFriend, AppState.friend?_updateFriend _ _ _ (by exact fun _ => rfl), if_pos rfl] at hFriend
  obtain ⟨former, _, rfl⟩ := Option.map_eq_some_iff.mp hFriend
  cases hKey
  exact (friendForDhtKey_register dhtKey peer dhtKey hBefore).trans (if_pos rfl)

theorem spares_unregister {dhtKey : Option String} (hFree : ∀ key, dhtKey = some key → state.FreeFor peer key) :
    SparesOthers peer state (state.unregisterFriendDhtKey dhtKey) := by
  refine ⟨fun _ _ => rfl, fun other hOther hFriend key => ?_, Option.isSome_map, id⟩
  unfold AppState.friendForDhtKey AppState.unregisterFriendDhtKey
  cases hManager : state.dhtManager with
  | none => rfl
  | some manager =>
    cases dhtKey with
    | none => rfl
    | some dhtKey =>
      change (manager.dhtKeyToFriend.erase dhtKey).lookup key = some other ↔ manager.dhtKeyToFriend.lookup key = some other
      by_cases hKey : key = dhtKey
      · subst hKey
        rw [Finmap.lookup_erase]
        refine iff_of_false nofun fun hFound => hFree key rfl other hOther hFriend ?_
        rw [AppState.friendForDhtKey, hManager]
        exact hFound
      · rw [Finmap.lookup_erase_ne hKey]

/-- A change that leaves the key and the removal of the peer as they are. -/
theorem attributesTo_updateFriend {change : FriendState → FriendState} (h : state.AttributesTo peer)
    (hPublic : ∀ friend, (change friend).publicKey = friend.publicKey)
    (hKey : ∀ friend, (change friend).dhtRecordKey = friend.dhtRecordKey)
    (hState : ∀ friend, state.friend? peer = some friend → (change friend).friendshipState ≠ .removing →
      friend.friendshipState ≠ .removing) : (state.updateFriend peer change).AttributesTo peer := by
  intro friend dhtKey hFriend hStays hDht
  rw [state.friend?_updateFriend peer change hPublic, if_pos rfl] at hFriend
  obtain ⟨former, hFormer, rfl⟩ := Option.map_eq_some_iff.mp hFriend
  exact h former dhtKey hFormer (hState former hFormer hStays) ((hKey former).symm.trans hDht)

end

/-! ## Operations that presence does not depend on -/

theorem OnlySends.presence {before after : AppState} (h : OnlySends before after) : after.presence = before.presence := by
  obtain ⟨_, _, rfl⟩ := h
  rfl

theorem OnlyBooks.presence {before after : AppState} (h : OnlyBooks before after) : after.presence = before.presence := by
  obtain ⟨_, _, _, rfl⟩ := h
  rfl

section
variable (externals : Externals) (ambient : Ambient) (peer : String) (state : AppState)

theorem presence_callManager {α : Type} (call : StoreM MemoryStores α) :
    (state.callManager call).2.presence = state.presence := by
  rw [AppState.callManager_state]
  rfl

theorem presence_sendFriendAccept (sessionInit : Option SessionInitInfo) :
    (sendFriendAccept externals ambient peer sessionInit state).2.presence = state.presence :=
  (sendFriendAccept_onlySends externals ambient peer sessionInit state).presence

theorem presence_sendFriendRequest (message : String) :
    (sendFriendRequest externals ambient peer message state).2.presence = state.presence := by
  rcases sendFriendRequest_onlySends externals ambient peer message state with h | h
  · exact h.presence
  · exact h.presence

theorem presence_reestablishSession (prekeyBundle : Bytes) :
    (reestablishSession externals ambient peer prekeyBundle state).2.presence = state.presence := by
  unfold reestablishSession
  cases externals.bundleFromSlice prekeyBundle with
  | none => exact presence_callManager state _
  | some bundle => exact (presence_callManager _ _).trans (presence_callManager state (deleteSession manager peer))

theorem presence_handleFriendAccept (accept : FriendAccept) :
    (handleFriendAccept externals peer accept state).presence = state.presence := by
  unfold handleFriendAccept
  split
  · rfl
  · cases externals.bundleFromSlice accept.prekeyBundle with
    | none => rfl
    | some bundle => exact (presence_callManager _ _).trans (presence_callManager state (deleteSession manager peer))

theorem presence_openPayload (payload : Bytes) :
    (openPayload externals peer payload state).2.presence = state.presence := by
  unfold openPayload
  split
  · rfl
  · exact presence_callManager state _

theorem presence_sendEnvelopeToPeer (payload : MessagePayload) (encrypted : Bool) :
    (sendEnvelopeToPeer externals ambient peer payload encrypted state).2.presence = state.presence := by
  have hSealed : (sealPayload externals peer (externals.payloadToVec payload) state).2.presence = state.presence := by
    rcases sealPayload_state peer (externals.payloadToVec payload) state with h | h
    · rw [h]
    · rw [h, presence_callManager]
  unfold sendEnvelopeToPeer
  cases encrypted with
  | false => exact (dispatchEnvelope_onlySends externals ambient peer _ _ state).presence
  | true =>
    simp only [if_true]
    split
    · exact hSealed
    · exact (dispatchEnvelope_onlySends externals ambient peer _ _ _).presence.trans hSealed

end

/-! ## Received payloads -/

/-- The step spares the others and attributes the peer's record to the peer. -/
structure Follows (peer : String) (before after : AppState) : Prop where
  spares : SparesOthers peer before after
  here : after.AttributesTo peer

section
variable {externals : Externals} {ambient : Ambient} {peer : String} {state before after last : AppState}

theorem AppState.AttributesTo.of_presence (h : before.AttributesTo peer) (hSame : after.presence = before.presence) :
    after.AttributesTo peer := by
  obtain ⟨hFriends, hManager⟩ := Prod.mk.inj hSame
  intro friend dhtKey hFriend hStays hKey hSome
  rw [AppState.friend?, hFriends] at hFriend
  rw [hManager] at hSome
  rw [AppState.friendForDhtKey, hManager]
  exact h friend dhtKey hFriend hStays hKey hSome

theorem Follows.of_presence (h : before.AttributesTo peer) (hSame : after.presence = before.presence) :
    Follows peer before after := ⟨.of_presence hSame, h.of_presence hSame⟩

theorem Follows.then_presence (h : Follows peer before after) (hSame : last.presence = after.presence) :
    Follows peer before last := ⟨h.spares.trans (.of_presence hSame), h.here.of_presence hSame⟩

theorem Follows.after_presence (hSame : after.presence = before.presence) (h : Follows peer after last) :
    Follows peer before last := ⟨.trans (.of_presence hSame) h.spares, h.here⟩

theorem Follows.trans (h : Follows peer before after) (h' : Follows peer after last) : Follows peer before last :=
  ⟨h.spares.trans h'.spares, h'.here⟩

theorem Follows.watch (h : SparesOthers peer before after) {dhtKey : String} (hFree : before.FreeFor peer dhtKey) :
    Follows peer before (after.watchFriend peer dhtKey) :=
  ⟨h.trans (spares_watchFriend (h.freeFor hFree)), attributesTo_watchFriend dhtKey⟩

/-- The peer leaves the list. -/
theorem follows_removeFriend : Follows peer state (state.removeFriend peer) :=
  ⟨spares_removeFriend, AppState.attributesTo_of_absent ((state.friend?_removeFriend peer peer).trans (if_pos rfl))⟩

theorem follows_unregister {dhtKey : Option String} (hFree : ∀ key, dhtKey = some key → state.FreeFor peer key)
    (hGone : state.friend? peer = none) : Follows peer state (state.unregisterFriendDhtKey dhtKey) :=
  ⟨spares_unregister hFree, AppState.attributesTo_of_absent hGone⟩

/-- A friend that has a record is followed by it, so that nobody else is. -/
theorem AppState.AttributesTo.freeFor (h : state.AttributesTo peer) {friend : FriendState} {dhtKey : String}
    (hFriend : state.friend? peer = some friend) (hStays : friend.friendshipState ≠ .removing)
    (hKey : friend.dhtRecordKey = some dhtKey) : state.FreeFor peer dhtKey := by
  intro other hOther _ hFound
  by_cases hManager : state.dhtManager = none
  · rw [friendForDhtKey, hManager] at hFound
    cases hFound
  · cases (h friend dhtKey hFriend hStays hKey hManager).symm.trans hFound
    exact hOther rfl

theorem presence_acceptCrossing (request : FriendRequest) : (state.acceptCrossing peer request).presence =
    (state.updateFriend peer fun friend => { friend.withKeys request.profileDhtKey request.mailboxDhtKey with
      friendshipState := .accepted, displayName := request.displayName }).presence := by
  unfold AppState.acceptCrossing
  by_cases hProfile : request.profileDhtKey = "" <;> by_cases hMailbox : request.mailboxDhtKey = ""
  all_goals
    simp only [hProfile, hMailbox, if_true, if_false]
    rfl

/-- What a friend who is being removed had as record belongs to nobody else. -/
def AppState.LeftFree (state : AppState) (peer : String) : Prop :=
  ∀ friend dhtKey, state.friend? peer = some friend → friend.friendshipState = .removing →
    friend.dhtRecordKey = some dhtKey → state.FreeFor peer dhtKey

theorem AppState.AttributesTo.freeFor_recorded (h : state.AttributesTo peer) (hLeft : state.LeftFree peer)
    {friend : FriendState} {dhtKey : String} (hFriend : state.friend? peer = some friend)
    (hKey : friend.dhtRecordKey = some dhtKey) : state.FreeFor peer dhtKey := by
  by_cases hRemoving : friend.friendshipState = .removing
  · exact hLeft friend dhtKey hFriend hRemoving hKey
  · exact h.freeFor hFriend hRemoving hKey

theorem follows_acceptCrossing (h : state.AttributesTo peer) (request : FriendRequest)
    (hPending : state.friendshipState? peer = some .pendingOut) (hKey : request.profileDhtKey = "") :
    Follows peer state (state.acceptCrossing peer request) := by
  have hUpdated : Follows peer state (state.updateFriend peer fun friend =>
      { friend.withKeys request.profileDhtKey request.mailboxDhtKey with
        friendshipState := .accepted, displayName := request.displayName }) := by
    refine ⟨spares_updateFriend fun _ => rfl, attributesTo_updateFriend h (fun _ => rfl) (fun friend => if_pos hKey) ?_⟩
    intro friend hFriend _ hRemoving
    rw [friendshipState_of_friendOf hFriend, hRemoving] at hPending
    cases hPending
  exact hUpdated.then_presence (presence_acceptCrossing request)

theorem spares_acceptCrossing (request : FriendRequest) :
    SparesOthers peer state (state.acceptCrossing peer request) := by
  refine .trans ?_ (.of_presence (presence_acceptCrossing request))
  exact spares_updateFriend fun _ => rfl

theorem follows_autoAcceptCrossRequest (h : state.AttributesTo peer) (request : FriendRequest)
    (hPending : state.friendshipState? peer = some .pendingOut)
    (hFree : request.profileDhtKey ≠ "" → state.FreeFor peer request.profileDhtKey) :
    Follows peer state (autoAcceptCrossRequest externals ambient peer request state) := by
  have hCleared : (state.deletePendingRequestRow peer).presence = state.presence := rfl
  have hSent : ∀ started : Option SessionInitInfo × AppState,
      started.2.presence = ((state.deletePendingRequestRow peer).acceptCrossing peer request).presence →
      Follows peer state (if request.profileDhtKey = "" then (sendFriendAccept externals ambient peer started.1 started.2).2
        else (sendFriendAccept externals ambient peer started.1 started.2).2.watchFriend peer request.profileDhtKey) := by
    intro started hStarted
    have hSame := (presence_sendFriendAccept externals ambient peer started.2 started.1).trans hStarted
    by_cases hKey : request.profileDhtKey = ""
    · rw [if_pos hKey]
      have hCrossed : Follows peer (state.deletePendingRequestRow peer)
          ((state.deletePendingRequestRow peer).acceptCrossing peer request) :=
        follows_acceptCrossing (h.of_presence hCleared) request hPending hKey
      exact .after_presence hCleared (hCrossed.then_presence hSame)
    · rw [if_neg hKey]
      refine .watch ?_ (hFree hKey)
      have hCrossed : SparesOthers peer (state.deletePendingRequestRow peer)
          ((state.deletePendingRequestRow peer).acceptCrossing peer request) := spares_acceptCrossing request
      exact .trans (.of_presence hCleared) (hCrossed.trans (.of_presence hSame))
  unfold autoAcceptCrossRequest
  dsimp only
  by_cases hBundle : request.prekeyBundle = []
  · rw [if_pos hBundle]
    exact hSent (none, (state.deletePendingRequestRow peer).acceptCrossing peer request) rfl
  · rw [if_neg hBundle]
    exact hSent _ (presence_reestablishSession externals ambient peer _ _)

theorem follows_recordFriendRequest (h : Follows peer state after) (request : FriendRequest) :
    Follows peer state (recordFriendRequest externals ambient peer request after) :=
  h.then_presence (recordFriendRequest_onlyBooks ambient peer request after).presence

theorem follows_handleFriendRequestFull (h : state.AttributesTo peer) (request : FriendRequest)
    (hFree : state.friendshipState? peer = some .pendingOut → request.profileDhtKey ≠ "" →
      state.FreeFor peer request.profileDhtKey) :
    Follows peer state (handleFriendRequestFull externals ambient peer request state) := by
  unfold handleFriendRequestFull
  split
  · next hPending => exact follows_autoAcceptCrossRequest h request hPending (hFree hPending)
  · refine follows_recordFriendRequest ?_ request
    exact follows_removeFriend.then_presence rfl
  · refine follows_recordFriendRequest ?_ request
    exact follows_removeFriend.then_presence rfl
  · exact follows_recordFriendRequest (.of_presence h rfl) request

theorem follows_handleFriendAcceptFull (h : state.AttributesTo peer) (accept : FriendAccept)
    (hFree : state.friendshipState? peer ≠ some .removing → accept.profileDhtKey ≠ "" →
      state.FreeFor peer accept.profileDhtKey) :
    Follows peer state (handleFriendAcceptFull externals peer accept state) := by
  unfold handleFriendAcceptFull
  split
  · exact .of_presence h rfl
  next hStays =>
  have hSame := presence_handleFriendAccept externals peer state accept
  refine .after_presence hSame ?_
  unfold AppState.markAccepted
  dsimp only
  split
  · next hKey =>
    have hUpdated : Follows peer (handleFriendAccept externals peer accept state)
        ((handleFriendAccept externals peer accept state).updateFriend peer fun friend =>
          { friend.withKeys accept.profileDhtKey accept.mailboxDhtKey with friendshipState := .accepted }) := by
      refine ⟨spares_updateFriend fun _ => rfl, attributesTo_updateFriend (h.of_presence hSame) (fun _ => rfl)
        (fun friend => if_pos hKey) fun friend hFriend _ hRemoving => hStays ?_⟩
      rw [AppState.friend?, (Prod.mk.inj hSame).1] at hFriend
      rw [friendshipState_of_friendOf hFriend, hRemoving]
    exact hUpdated.then_presence rfl
  · next hKey =>
    refine .watch ?_ ((SparesOthers.of_presence hSame).freeFor (hFree hStays hKey))
    have hUpdated : SparesOthers peer (handleFriendAccept externals peer accept state)
        ((handleFriendAccept externals peer accept state).updateFriend peer fun friend =>
          { friend.withKeys accept.profileDhtKey accept.mailboxDhtKey with friendshipState := .accepted }) :=
      spares_updateFriend fun _ => rfl
    exact hUpdated.trans (.of_presence rfl)

theorem follows_handleFriendReject (h : state.AttributesTo peer) : Follows peer state (handleFriendReject peer state) := by
  unfold handleFriendReject
  split
  · have hRemoved : Follows peer (state.deleteFriendRow peer) ((state.deleteFriendRow peer).removeFriend peer) :=
      follows_removeFriend
    exact .after_presence (show (state.deleteFriendRow peer).presence = state.presence from rfl) hRemoved
  · exact .of_presence h rfl

/-- The peer leaves the list and its record is no longer followed. -/
theorem follows_dropped (h : state.AttributesTo peer) (hLeft : state.LeftFree peer) (hSame : after.presence = state.presence) :
    Follows peer state ((after.removeFriend peer).unregisterFriendDhtKey ((after.friend? peer).bind (·.dhtRecordKey))) := by
  refine .after_presence hSame (follows_removeFriend.trans (follows_unregister (fun dhtKey hKey => ?_) ?_))
  · obtain ⟨friend, hFriend, hDht⟩ := Option.bind_eq_some_iff.mp hKey
    rw [AppState.friend?, (Prod.mk.inj hSame).1] at hFriend
    exact (SparesOthers.trans (.of_presence hSame) spares_removeFriend).freeFor (h.freeFor_recorded hLeft hFriend hDht)
  · rw [after.friend?_removeFriend, if_pos rfl]

theorem follows_handleUnfriended (h : state.AttributesTo peer) :
    Follows peer state (handleUnfriended externals ambient peer state) := by
  have hLeft : state.friendshipState? peer ≠ some .removing → state.LeftFree peer := by
    intro hStays friend dhtKey hFriend hRemoving
    rw [friendshipState_of_friendOf hFriend, hRemoving] at hStays
    exact absurd rfl hStays
  unfold handleUnfriended
  split
  · exact .of_presence h rfl
  · exact .of_presence h rfl
  · next hState => exact follows_dropped h (hLeft (by rw [hState]; decide)) (presence_sendEnvelopeToPeer externals ambient peer _ _ _)
  · next hState => exact follows_dropped h (hLeft (by rw [hState]; decide)) (presence_sendEnvelopeToPeer externals ambient peer _ _ _)

theorem follows_handleProfileKeyRotated (h : state.AttributesTo peer) (newProfileDhtKey : String)
    (hNew : state.FreeFor peer newProfileDhtKey) (hLeft : state.LeftFree peer) :
    Follows peer state (handleProfileKeyRotated peer newProfileDhtKey state) := by
  unfold handleProfileKeyRotated
  split
  · exact .of_presence h rfl
  · next friend hFriend =>
    refine .watch ?_ hNew
    refine (spares_unregister fun dhtKey hKey => h.freeFor_recorded hLeft hFriend hKey).trans ?_
    have hUpdated : SparesOthers peer (state.unregisterFriendDhtKey friend.dhtRecordKey)
        ((state.unregisterFriendDhtKey friend.dhtRecordKey).updateFriend peer fun friend =>
          { friend with dhtRecordKey := some newProfileDhtKey }) := spares_updateFriend fun _ => rfl
    exact hUpdated.trans (.of_presence rfl)

/-- Handling the payload registers no record of another friend, and drops none. -/
def AppState.TakesOwn (state : AppState) (sender : String) : MessagePayload → Prop
  | .friendRequest request => state.friendshipState? sender = some .pendingOut → request.profileDhtKey ≠ "" →
      state.FreeFor sender request.profileDhtKey
  | .friendAccept accept => state.friendshipState? sender ≠ some .removing → accept.profileDhtKey ≠ "" →
      state.FreeFor sender accept.profileDhtKey
  | .profileKeyRotated newProfileDhtKey => state.FreeFor sender newProfileDhtKey ∧ state.LeftFree sender
  | _ => True

theorem follows_dispatchPayload (h : state.AttributesTo peer) (timestamp : Int) {payload : MessagePayload}
    (hOwn : state.TakesOwn peer payload) :
    Follows peer state (dispatchPayload externals ambient peer timestamp state payload) := by
  cases payload with
  | directMessage body =>
    have hUnread : Follows peer state (state.updateFriend peer fun friend =>
        { friend with unreadCount := friend.unreadCount + 1 }) :=
      ⟨spares_updateFriend fun _ => rfl, attributesTo_updateFriend h (fun _ => rfl) (fun _ => rfl) fun _ _ h => h⟩
    exact hUnread.then_presence rfl
  | channelMessage channelId body => exact .of_presence h rfl
  | friendRequest request => exact follows_handleFriendRequestFull h request hOwn
  | friendAccept accept => exact follows_handleFriendAcceptFull h accept hOwn
  | friendReject => exact follows_handleFriendReject h
  | profileKeyRotated newProfileDhtKey => exact follows_handleProfileKeyRotated h newProfileDhtKey hOwn.1 hOwn.2
  | unfriended => exact follows_handleUnfriended h
  | unfriendedAck => exact .of_presence h rfl
  | typingIndicator | friendRequestReceived | presenceUpdate => exact .of_presence h rfl

theorem AppState.TakesOwn.of_presence (hSame : after.presence = before.presence) {payload : MessagePayload}
    (h : before.TakesOwn peer payload) : after.TakesOwn peer payload := by
  obtain ⟨hFriends, hManager⟩ := Prod.mk.inj hSame
  unfold TakesOwn friendshipState? LeftFree FreeFor HasFriend friend? friendForDhtKey at h ⊢
  rwa [hFriends, hManager]

theorem follows_handleIncomingMessage {envelope : MessageEnvelope} (h : state.Attributes)
    (hOwn : ∀ payload, state.delivered externals envelope = some payload →
      state.TakesOwn (hexEncode envelope.senderKey) payload) :
    Follows (hexEncode envelope.senderKey) state (handleIncomingMessage externals ambient envelope state) := by
  have hSender := h (hexEncode envelope.senderKey)
  unfold handleIncomingMessage
  split
  · exact .of_presence hSender rfl
  dsimp only
  split
  · exact .of_presence hSender rfl
  have hOpened := presence_openPayload externals (hexEncode envelope.senderKey) state envelope.payload
  refine .after_presence hOpened ?_
  have hSender' := hSender.of_presence hOpened
  unfold handlePayload
  split
  · exact .of_presence hSender' rfl
  · next payload hPayload =>
    split
    · exact .of_presence hSender' rfl
    · exact follows_dispatchPayload hSender' _ ((hOwn payload hPayload).of_presence hOpened)

end

/-! ## Commands -/

section
variable {externals : Externals} {ambient : Ambient} {state : AppState} {publicKey displayName message : String}

/-- A friend without a record is entered. -/
theorem follows_insertFriend {friend : FriendState} (hPublic : friend.publicKey = publicKey)
    (hKey : friend.dhtRecordKey = none) : Follows publicKey state (state.insertFriend friend) := by
  refine ⟨spares_insertFriend hPublic, fun other dhtKey hOther _ hDht => ?_⟩
  rw [state.friend?_insertFriend, if_pos hPublic.symm] at hOther
  cases hOther
  cases hKey.symm.trans hDht

theorem follows_addFriend (h : state.AttributesTo publicKey) :
    Follows publicKey state (addFriend externals ambient publicKey displayName message state).2 := by
  have hSame : Follows publicKey state state := .of_presence h rfl
  unfold addFriend
  split
  · exact hSame
  split
  · exact hSame
  split
  · exact hSame
  split
  · exact hSame
  split
  · exact hSame
  next db hDb =>
  have hCleared : ({ state with db := db } : AppState).presence = state.presence := rfl
  have hEntered : Follows publicKey { state with db := db }
      (AppState.insertFriend { state with db := db } (newFriend publicKey displayName none none .pendingOut)) :=
    follows_insertFriend rfl rfl
  exact .after_presence hCleared (hEntered.then_presence (presence_sendFriendRequest externals ambient publicKey _ message))

theorem follows_removeFriendCommand (h : state.AttributesTo publicKey) (hLeft : state.LeftFree publicKey) :
    Follows publicKey state (removeFriend externals ambient publicKey state).2 := by
  unfold removeFriend
  split
  · exact .of_presence h rfl
  dsimp only
  have hTold : (((buildAndQueueEnvelope externals ambient publicKey .unfriended (sendToPeerRaw externals ambient publicKey
      .unfriended state).2).2.deleteFriendRow publicKey).deletePendingRequestRow publicKey).presence = state.presence :=
    (buildAndQueueEnvelope_onlySends externals ambient publicKey _ _).presence.trans
      (presence_sendEnvelopeToPeer externals ambient publicKey state _ _)
  refine .after_presence hTold ?_
  generalize (((buildAndQueueEnvelope externals ambient publicKey .unfriended (sendToPeerRaw externals ambient publicKey
    .unfriended state).2).2.deleteFriendRow publicKey).deletePendingRequestRow publicKey) = told at hTold ⊢
  have hAway : Follows publicKey told
      (told.updateFriend publicKey fun friend => { friend with friendshipState := .removing }) := by
    refine ⟨spares_updateFriend fun _ => rfl, fun friend dhtKey hFriend hStays => ?_⟩
    rw [told.friend?_updateFriend publicKey _ (by exact fun _ => rfl), if_pos rfl] at hFriend
    obtain ⟨former, _, rfl⟩ := Option.map_eq_some_iff.mp hFriend
    exact absurd rfl hStays
  have hFree : ∀ friend dhtKey, told.friend? publicKey = some friend → friend.dhtRecordKey = some dhtKey →
      told.FreeFor publicKey dhtKey := by
    intro friend dhtKey hFriend hDht
    rw [AppState.friend?, (Prod.mk.inj hTold).1] at hFriend
    exact (SparesOthers.of_presence hTold).freeFor (h.freeFor_recorded hLeft hFriend hDht)
  refine Follows.then_presence (hAway.trans ⟨spares_unregister fun dhtKey hKey => ?_, ?_⟩) rfl
  · obtain ⟨friend, hFriend, hDht⟩ := Option.bind_eq_some_iff.mp hKey
    rw [told.friend?_updateFriend publicKey _ (by exact fun _ => rfl), if_pos rfl] at hFriend
    obtain ⟨former, hFormer, rfl⟩ := Option.map_eq_some_iff.mp hFriend
    exact hAway.spares.freeFor (hFree former dhtKey hFormer hDht)
  · intro friend dhtKey hFriend hStays
    rw [AppState.friend?] at hFriend
    change (told.updateFriend publicKey fun friend => { friend with friendshipState := .removing }).friend? publicKey =
      some friend at hFriend
    rw [told.friend?_updateFriend publicKey _ (by exact fun _ => rfl), if_pos rfl] at hFriend
    obtain ⟨former, _, rfl⟩ := Option.map_eq_some_iff.mp hFriend
    exact absurd rfl hStays

theorem follows_finishRemoval (h : state.AttributesTo publicKey) :
    Follows publicKey state (finishRemoval publicKey state) := by
  unfold finishRemoval
  split
  · exact .of_presence h rfl
  dsimp only
  split
  · have hRemoved : Follows publicKey { state with removals := state.removals.erase publicKey }
        (AppState.removeFriend { state with removals := state.removals.erase publicKey } publicKey) := follows_removeFriend
    have hCleared : AppState.presence { state with removals := state.removals.erase publicKey } = state.presence := rfl
    exact .after_presence hCleared
      (hRemoved.then_presence (presence_callManager _ (deleteSession manager publicKey)))
  · exact .of_presence h rfl

theorem follows_acceptRequest (h : state.AttributesTo publicKey)
    (hFree : ∀ profileDhtKey, (readPendingRequestData state publicKey).1 = some profileDhtKey →
      state.FreeFor publicKey profileDhtKey) :
    Follows publicKey state (acceptRequest externals ambient publicKey displayName state).2 := by
  unfold acceptRequest
  split
  · exact .of_presence h rfl
  dsimp only
  split
  · exact .of_presence h rfl
  next entered hEntered =>
  obtain ⟨db, _, rfl⟩ := Option.map_eq_some_iff.mp hEntered
  have hEnters : SparesOthers publicKey state (state.insertFriend (newFriend publicKey displayName
      (readPendingRequestData state publicKey).1 (readPendingRequestData state publicKey).2.1 .accepted)) :=
    spares_insertFriend rfl
  have hStarted : ∀ started : Option SessionInitInfo × AppState,
      started.2.presence = (state.insertFriend (newFriend publicKey displayName
        (readPendingRequestData state publicKey).1 (readPendingRequestData state publicKey).2.1 .accepted)).presence →
      Follows publicKey state ((readPendingRequestData state publicKey).1.elim
        (sendFriendAccept externals ambient publicKey started.1 started.2).2
        ((sendFriendAccept externals ambient publicKey started.1 started.2).2.watchFriend publicKey)) := by
    intro started hStarted
    have hSame := (presence_sendFriendAccept externals ambient publicKey started.2 started.1).trans hStarted
    cases hProfile : (readPendingRequestData state publicKey).1 with
    | none =>
      rw [hProfile] at hSame
      exact (follows_insertFriend rfl rfl).then_presence hSame
    | some profileDhtKey => exact .watch (hEnters.trans (.of_presence hSame)) (hFree profileDhtKey hProfile)
  split
  · exact hStarted (none, _) rfl
  · exact hStarted _ (presence_reestablishSession externals ambient publicKey _ _)

theorem follows_rejectRequest (h : state.AttributesTo publicKey) :
    Follows publicKey state (rejectRequest externals ambient publicKey state).2 := by
  unfold rejectRequest
  split
  · exact .of_presence h rfl
  · exact .of_presence h (presence_sendEnvelopeToPeer externals ambient publicKey _ _ _)

theorem follows_cancelRequest (h : state.AttributesTo publicKey) :
    Follows publicKey state (cancelRequest publicKey state).2 := by
  unfold cancelRequest
  split
  · exact .of_presence h rfl
  split
  · have hRemoved : Follows publicKey (state.deleteFriendRow publicKey)
        ((state.deleteFriendRow publicKey).removeFriend publicKey) := follows_removeFriend
    exact .after_presence (show (state.deleteFriendRow publicKey).presence = state.presence from rfl) hRemoved
  · exact .of_presence h rfl

theorem presence_setupInviteContact (blob : InviteBlob) :
    (setupInviteContact externals ambient blob state).presence = state.presence := by
  unfold setupInviteContact
  split
  · rfl
  · exact (presence_callManager _ _).trans (presence_callManager state (deleteSession manager blob.publicKey))

theorem follows_addFriendFromInvite (h : state.Attributes) (inviteString : String) (hFree : ∀ blob,
      externals.decodeInviteUrl inviteString = some blob → state.FreeFor blob.publicKey blob.profileDhtKey) :
    ∃ peer, Follows peer state (addFriendFromInvite externals ambient inviteString state).2 := by
  have hSame : Follows "" state state := .of_presence (h "") rfl
  unfold addFriendFromInvite
  split
  · exact ⟨_, hSame⟩
  next blob hBlob =>
  refine ⟨blob.publicKey, ?_⟩
  have hSame : Follows blob.publicKey state state := .of_presence (h blob.publicKey) rfl
  split
  · exact hSame
  split
  · exact hSame
  split
  · exact hSame
  split
  · exact hSame
  have hDropped : Follows blob.publicKey state ((state.removeFriend blob.publicKey).deleteFriendRow blob.publicKey) :=
    follows_removeFriend.then_presence rfl
  unfold enterInvited
  dsimp only
  cases ((state.removeFriend blob.publicKey).deleteFriendRow blob.publicKey).db.insertFriend
    ⟨((state.removeFriend blob.publicKey).deleteFriendRow blob.publicKey).ownerKey, blob.publicKey, blob.displayName,
      ambient.timestampNow, some blob.profileDhtKey, some blob.mailboxDhtKey, .pendingOut⟩ with
  | none => exact hDropped
  | some db =>
    have hStored : SparesOthers blob.publicKey state
        { (state.removeFriend blob.publicKey).deleteFriendRow blob.publicKey with db := db } :=
      hDropped.spares.trans (.of_presence rfl)
    have hEntered : SparesOthers blob.publicKey state
        (({ (state.removeFriend blob.publicKey).deleteFriendRow blob.publicKey with db := db } : AppState).insertFriend
          (newFriend blob.publicKey blob.displayName (some blob.profileDhtKey) (some blob.mailboxDhtKey) .pendingOut)) :=
      hStored.trans (spares_insertFriend rfl)
    refine .watch (hEntered.trans (.of_presence ?_)) (hFree blob hBlob)
    exact (presence_sendFriendRequest externals ambient blob.publicKey _ _).trans (presence_setupInviteContact blob)

theorem presence_rotateProfileKey : (rotateProfileKey externals ambient state).2.presence = state.presence := by
  have hSends (friendKeys : List String) (newKey : String) (before : AppState) :
      (friendKeys.foldl (fun state friendKey =>
        (sendToPeerRaw externals ambient friendKey (.profileKeyRotated newKey) state).2) before).presence =
        before.presence := by
    induction friendKeys generalizing before with
    | nil => rfl
    | cons friendKey rest ih => exact (ih _).trans (presence_sendEnvelopeToPeer externals ambient friendKey before _ _)
  unfold rotateProfileKey
  split
  · rfl
  · rfl
  · rfl
  · refine (hSends _ _ _).trans ?_
    change (offerPrekeyBundle externals ambient state).2.presence = _
    rw [offerPrekeyBundle_state]
    rfl

theorem follows_blockUser (h : state.AttributesTo publicKey) (hLeft : state.LeftFree publicKey)
    (displayName : Option String) :
    Follows publicKey state (blockUser externals ambient publicKey displayName state).2 := by
  unfold blockUser
  split
  · exact .of_presence h rfl
  dsimp only
  split
  · exact .of_presence h rfl
  · next db _ =>
    have hCleared : (AppState.deletePendingMessagesToRecipient
        { (state.deleteFriendRow publicKey).deletePendingRequestRow publicKey with db := db } publicKey).presence =
        state.presence := rfl
    exact (follows_dropped h hLeft hCleared).then_presence
      (presence_rotateProfileKey.trans (presence_callManager _ (deleteSession manager publicKey)))

theorem presence_sendChatMessage (peer body : String) :
    (sendChatMessage externals ambient peer body state).2.presence = state.presence := by
  unfold sendChatMessage
  split
  · rfl
  split
  · rfl
  · exact presence_sendEnvelopeToPeer externals ambient peer _ _ _

theorem presence_sendChatTyping (peer : String) (typing : Bool) :
    (sendChatTyping externals ambient peer typing state).2.presence = state.presence := by
  unfold sendChatTyping
  split
  · rfl
  · exact presence_sendEnvelopeToPeer externals ambient peer _ _ _

theorem presence_generateInvite : (generateInvite externals ambient state).2.presence = state.presence := by
  have hOffered := presence_callManager state
    (generatePrekeyBundle externals.prims manager ambient.signedPrekey ambient.otpk 1 (some 1))
  unfold generateInvite
  split
  · rfl
  · rfl
  split
  · rfl
  split
  · rfl
  · rfl
  · rfl
  · split
    all_goals
      next hRun =>
        rw [hRun] at hOffered
        exact hOffered

end

/-! ## Background tasks, login and the network -/

section
variable {externals : Externals} {ambient : Ambient} {state : AppState}

theorem AppState.dhtManager_removeFriends (rows : List FriendRow) (state : AppState) :
    (state.removeFriends rows).dhtManager = state.dhtManager := by
  induction rows generalizing state with
  | nil => rfl
  | cons row rest ih => exact ih (state.removeFriend row.publicKey)

theorem attributes_expireStaleRequests (h : state.Attributes) : (expireStaleRequests ambient state).Attributes := by
  by_cases hOwner : state.ownerKey = ""
  · unfold expireStaleRequests
    rwa [if_pos hOwner]
  have hManager : (expireStaleRequests ambient state).dhtManager = state.dhtManager := by
    rw [expireStaleRequests_eq hOwner]
    exact AppState.dhtManager_removeFriends _ _
  intro peer friend dhtKey hFriend hStays hKey hSome
  rw [← AppState.friendOf_ledger, friendOf_expired hOwner] at hFriend
  split at hFriend
  · cases hFriend
  · rw [hManager] at hSome
    rw [AppState.friendForDhtKey, hManager]
    exact h peer friend dhtKey hFriend hStays hKey hSome

theorem attributes_watchFriends (h : state.Attributes) {entries : List (String × String)}
    (hFree : ∀ entry ∈ entries, state.FreeFor entry.1 entry.2)
    (hSame : ∀ entry ∈ entries, ∀ friend, state.friend? entry.1 = some friend → friend.dhtRecordKey = some entry.2) :
    (entries.foldl (fun state entry => state.watchFriend entry.1 entry.2) state).Attributes := by
  induction entries generalizing state with
  | nil => exact h
  | cons entry rest ih =>
    rw [List.forall_mem_cons] at hFree hSame
    have hSpares : SparesOthers entry.1 state (state.watchFriend entry.1 entry.2) := spares_watchFriend hFree.1
    have hFound (peer : String) (friend : FriendState) (hFriend : (state.watchFriend entry.1 entry.2).friend? peer = some friend) :
        ∃ former, state.friend? peer = some former ∧ former.friendshipState = friend.friendshipState ∧
          (friend.dhtRecordKey = former.dhtRecordKey ∨ peer = entry.1 ∧ friend.dhtRecordKey = some entry.2) := by
      rw [AppState.watchFriend, AppState.friend?_updateFriend _ _ _ (by exact fun _ => rfl)] at hFriend
      split at hFriend
      · next hPeer =>
        obtain ⟨former, hFormer, rfl⟩ := Option.map_eq_some_iff.mp hFriend
        exact ⟨former, hPeer ▸ hFormer, rfl, .inr ⟨hPeer, rfl⟩⟩
      · exact ⟨friend, hFriend, rfl, .inl rfl⟩
    refine ih (h.step hSpares (attributesTo_watchFriend entry.2)) (fun later hLater => ?_) fun later hLater friend hFriend => ?_
    · rintro other hOther ⟨friend, hFriend, hStays⟩ hFollowed
      obtain ⟨former, hFormer, hState, _⟩ := hFound other friend hFriend
      have hHasFriend : state.HasFriend other := ⟨former, hFormer, hState ▸ hStays⟩
      by_cases hSelf : other = entry.1
      · -- What the map says of a friend who is not being removed, it said before.
        have hKey := hSame.1 former (hSelf ▸ hFormer)
        by_cases hManager : state.dhtManager = none
        · change (state.dhtManager.map _).bind _ = some other at hFollowed
          rw [hManager] at hFollowed
          cases hFollowed
        · have hBefore := h other former entry.2 hFormer (hState ▸ hStays) hKey hManager
          refine hFree.2 later hLater other hOther hHasFriend ?_
          have hRegistered := @friendForDhtKey_register state entry.2 entry.1 later.2 hManager
          by_cases hSameKey : later.2 = entry.2
          · rw [hSameKey]
            exact hBefore
          · rw [if_neg hSameKey] at hRegistered
            exact hRegistered.symm.trans hFollowed
      · exact hFree.2 later hLater other hOther hHasFriend ((hSpares.records other hSelf hHasFriend later.2).mp hFollowed)
    · obtain ⟨former, hFormer, _, hKey⟩ := hFound later.1 friend hFriend
      rcases hKey with hKey | ⟨hPeer, hKey⟩
      · exact hKey.trans (hSame.2 later hLater former hFormer)
      · have hFormerKey := hSame.2 later hLater former hFormer
        rw [hPeer] at hFormer
        rw [hKey, ← hFormerKey, hSame.1 former hFormer]

/-- What is synced of a friend is its own. -/
def AppState.SyncsOwn (externals : Externals) (state : AppState) : Prop :=
  ∀ friend ∈ state.friends, ∀ dhtKey, friend.dhtRecordKey = some dhtKey → externals.recordKeyParses dhtKey = true →
    state.FreeFor friend.publicKey dhtKey

theorem attributes_syncFriends (h : state.Attributes) (hDistinct : (state.friends.map FriendState.publicKey).Nodup)
    (hOwn : state.SyncsOwn externals) : (syncFriends externals state).Attributes := by
  unfold syncFriends
  split
  · exact h
  · refine attributes_watchFriends h (fun entry hEntry => ?_) fun entry hEntry friend hFriend => ?_
    all_goals
      obtain ⟨listed, hListed, hKey⟩ := List.mem_filterMap.mp hEntry
      obtain ⟨dhtKey, hDht, rfl⟩ := Option.map_eq_some_iff.mp hKey
      obtain ⟨hDht, hParses⟩ := Option.filter_eq_some_iff.mp hDht
    · exact hOwn listed hListed dhtKey hDht hParses
    · have hFound : state.friend? listed.publicKey = some listed := Keyed.find_of_mem hDistinct hListed
      cases hFound.symm.trans hFriend
      exact hDht

theorem distinct_syncFriends (h : (state.friends.map FriendState.publicKey).Nodup) :
    ((syncFriends externals state).friends.map FriendState.publicKey).Nodup := by
  have hFold (entries : List (String × String)) : ∀ before : AppState, (before.friends.map FriendState.publicKey).Nodup →
      ((entries.foldl (fun state entry => state.watchFriend entry.1 entry.2) before).friends.map
        FriendState.publicKey).Nodup := by
    induction entries with
    | nil => exact fun _ => id
    | cons entry rest ih =>
      intro before hBefore
      refine ih _ ?_
      change ((Keyed.update FriendState.publicKey entry.1 _ before.friends).map FriendState.publicKey).Nodup
      rwa [Keyed.map_key_update (by exact fun _ => rfl)]
  unfold syncFriends
  split
  · exact h
  · exact hFold _ state h

/-- A login finds no record of a friend in the table, or nothing to follow it by. -/
def AppState.LoadsNoRecord (externals : Externals) (state : AppState) (secretKey : Key) : Prop :=
  state.dhtManager ≠ none → ∀ row ∈ state.db.friends,
    row.ownerKey = hexEncode (externals.prims.ed25519Public secretKey).val → row.dhtRecordKey = none

theorem presence_login (displayName : String) (secretKey : Key) :
    (login externals ambient displayName secretKey state).presence =
      if hexEncode (externals.prims.ed25519Public secretKey).val ∈ state.db.identities then
        (loadFriends (hexEncode (externals.prims.ed25519Public secretKey).val) state.db.friends, state.dhtManager)
      else state.presence := by
  unfold login
  dsimp only
  by_cases hKnown : hexEncode (externals.prims.ed25519Public secretKey).val ∈ state.db.identities
  · rw [if_neg (not_not_intro hKnown), if_pos hKnown]
    exact presence_callManager _ _
  · rw [if_pos hKnown, if_neg hKnown]

theorem attributes_login (h : state.Attributes) (displayName : String) {secretKey : Key}
    (hKeyless : state.LoadsNoRecord externals secretKey) :
    (login externals ambient displayName secretKey state).Attributes := by
  have hPresence := @presence_login externals ambient state displayName secretKey
  split at hPresence
  · obtain ⟨hFriends, hManager⟩ := Prod.mk.inj hPresence
    intro peer friend dhtKey hFriend _ hKey hSome
    have hListed : friend ∈ (login externals ambient displayName secretKey state).friends := List.mem_of_find?_eq_some hFriend
    rw [hFriends] at hListed
    rcases Keyed.mem_foldl_insert FriendRow.load hListed with hNone | ⟨row, hRow, rfl⟩
    · cases hNone
    · obtain ⟨hRow, hOwner⟩ := List.mem_filter.mp hRow
      cases (hKeyless (hManager ▸ hSome) row hRow (of_decide_eq_true hOwner)).symm.trans hKey
  · exact h.of_presence hPresence

theorem distinct_login (h : (state.friends.map FriendState.publicKey).Nodup) (displayName : String) (secretKey : Key) :
    ((login externals ambient displayName secretKey state).friends.map FriendState.publicKey).Nodup := by
  have hPresence := @presence_login externals ambient state displayName secretKey
  split at hPresence
  · rw [(Prod.mk.inj hPresence).1]
    exact Keyed.nodup_foldl_insert _ _ List.nodup_nil
  · rwa [(Prod.mk.inj hPresence).1]

end

/-! ## Runs -/

/-- The step takes no record of another friend, and no friend is listed with a record before there is a
map to have it. -/
def KeepsAttribution (externals : Externals) (state : AppState) (action : Ambient × Event) : Prop :=
  match action.2 with
  | .receive envelope => ∀ payload, state.delivered externals envelope = some payload →
      state.TakesOwn (hexEncode envelope.senderKey) payload
  | .removeFriend publicKey => state.LeftFree publicKey
  | .acceptRequest publicKey _ => ∀ profileDhtKey, (readPendingRequestData state publicKey).1 = some profileDhtKey →
      state.FreeFor publicKey profileDhtKey
  | .addFriendFromInvite inviteString => ∀ blob, externals.decodeInviteUrl inviteString = some blob →
      state.FreeFor blob.publicKey blob.profileDhtKey
  | .blockUser publicKey _ => state.LeftFree publicKey
  | .syncFriends => state.SyncsOwn externals
  | .login _ secretKey => state.LoadsNoRecord externals secretKey
  | .networkChanged _ attached => attached = true → state.dhtManager = none →
      ∀ friend ∈ state.friends, friend.dhtRecordKey = none
  | _ => True

/-- A message changes no record that another friend's presence is taken from. -/
def LeavesOthersRecords (externals : Externals) (state : AppState) (action : Ambient × Event) : Prop :=
  ∀ envelope, action.2 = .receive envelope → ∀ other, other ≠ hexEncode envelope.senderKey → state.HasFriend other →
    ∀ dhtKey, (step externals state action).friendForDhtKey dhtKey = some other ↔
      state.friendForDhtKey dhtKey = some other

structure AppState.Attributed (state : AppState) : Prop where
  attributes : state.Attributes
  distinct : (state.friends.map FriendState.publicKey).Nodup

theorem AppState.Attributed.of_follows {peer : String} {state after : AppState} (h : state.Attributed)
    (hFollows : Follows peer state after) : after.Attributed :=
  ⟨h.attributes.step hFollows.spares hFollows.here, hFollows.spares.distinct h.distinct⟩

theorem AppState.Attributed.of_presence {state after : AppState} (h : state.Attributed)
    (hSame : after.presence = state.presence) : after.Attributed :=
  h.of_follows (.of_presence (h.attributes "") hSame)

theorem attributed_step {externals : Externals} {state : AppState} {action : Ambient × Event} (h : state.Attributed)
    (hKeeps : KeepsAttribution externals state action) :
    (step externals state action).Attributed ∧ LeavesOthersRecords externals state action := by
  have hAt := h.attributes
  obtain ⟨ambient, event⟩ := action
  cases event with
  | receive envelope =>
    have hFollows : Follows (hexEncode envelope.senderKey) state (handleIncomingMessage externals ambient envelope state) :=
      follows_handleIncomingMessage hAt hKeeps
    refine ⟨h.of_follows hFollows, fun other hOther => ?_⟩
    cases hOther
    exact hFollows.spares.records
  | addFriend publicKey displayName message => exact ⟨h.of_follows (follows_addFriend (hAt publicKey)), nofun⟩
  | removeFriend publicKey => exact ⟨h.of_follows (follows_removeFriendCommand (hAt publicKey) hKeeps), nofun⟩
  | finishRemoval publicKey => exact ⟨h.of_follows (follows_finishRemoval (hAt publicKey)), nofun⟩
  | acceptRequest publicKey displayName => exact ⟨h.of_follows (follows_acceptRequest (hAt publicKey) hKeeps), nofun⟩
  | rejectRequest publicKey => exact ⟨h.of_follows (follows_rejectRequest (hAt publicKey)), nofun⟩
  | cancelRequest publicKey => exact ⟨h.of_follows (follows_cancelRequest (hAt publicKey)), nofun⟩
  | generateInvite => exact ⟨h.of_presence presence_generateInvite, nofun⟩
  | addFriendFromInvite inviteString =>
    obtain ⟨peer, hFollows⟩ := @follows_addFriendFromInvite externals ambient state hAt inviteString hKeeps
    exact ⟨h.of_follows hFollows, nofun⟩
  | blockUser publicKey displayName =>
    exact ⟨h.of_follows (follows_blockUser (hAt publicKey) hKeeps displayName), nofun⟩
  | unblockUser publicKey =>
    refine ⟨h.of_presence ?_, nofun⟩
    change (unblockUser publicKey state).2.presence = _
    unfold unblockUser
    split <;> rfl
  | sendMessage peer body => exact ⟨h.of_presence (presence_sendChatMessage peer body), nofun⟩
  | sendTyping peer typing => exact ⟨h.of_presence (presence_sendChatTyping peer typing), nofun⟩
  | expireStaleRequests =>
    refine ⟨⟨attributes_expireStaleRequests hAt, ?_⟩, nofun⟩
    change ((expireStaleRequests ambient state).friends.map FriendState.publicKey).Nodup
    by_cases hOwner : state.ownerKey = ""
    · unfold expireStaleRequests
      rw [if_pos hOwner]
      exact h.distinct
    · rw [expireStaleRequests_eq hOwner]
      exact AppState.distinct_removeFriends _ _ h.distinct
  | retryPendingMessages => exact ⟨h.of_presence rfl, nofun⟩
  | syncFriends =>
    refine ⟨⟨attributes_syncFriends hAt h.distinct hKeeps, ?_⟩, nofun⟩
    exact distinct_syncFriends h.distinct
  | login displayName secretKey =>
    exact ⟨⟨attributes_login hAt displayName hKeeps, distinct_login h.distinct displayName secretKey⟩, nofun⟩
  | logout =>
    refine ⟨⟨fun peer friend dhtKey hFriend => ?_, List.nodup_nil⟩, nofun⟩
    cases hFriend
  | networkChanged node attached =>
    refine ⟨⟨fun peer friend dhtKey hFriend hStays hKey hManager => ?_, h.distinct⟩, nofun⟩
    cases attached with
    | false => exact absurd rfl hManager
    | true =>
      cases hBefore : state.dhtManager with
      | none => cases (hKeeps rfl hBefore friend (List.mem_of_find?_eq_some hFriend)).symm.trans hKey
      | some manager =>
        have hFound := hAt peer friend dhtKey hFriend hStays hKey (by rw [hBefore]; exact Option.some_ne_none _)
        rw [AppState.friendForDhtKey, hBefore] at hFound
        change (some (state.dhtManager.getD ⟨∅⟩)).bind _ = _
        rw [hBefore]
        exact hFound

/-- Along steps that take no record of another friend, every friend's record is attributed to that friend and
no message changes another friend's. -/
theorem presence_attributed (externals : Externals) (state : AppState) (hNew : state.JustInstalled)
    (actions : List (Ambient × Event)) (hRun : Along (step externals) (KeepsAttribution externals) state actions) :
    Along (step externals) (LeavesOthersRecords externals) state actions ∧
      (final (step externals) state actions).Attributes := by
  have hStart : state.Attributed := by
    refine ⟨fun peer friend dhtKey hFriend => ?_, ?_⟩
    · rw [AppState.friend?, hNew.friends] at hFriend
      cases hFriend
    · rw [hNew.friends]
      exact List.nodup_nil
  obtain ⟨hLeaves, hFinal⟩ := Along.of_invariant AppState.Attributed (fun _ _ h hKeeps => attributed_step h hKeeps) hStart hRun
  exact ⟨hLeaves, hFinal.attributes⟩

namespace Reference

open Signal.Reference

/-- Without friends every record is free. -/
theorem freeFor_of_friendless {state : AppState} (h : state.friends = []) (peer dhtKey : String) :
    state.FreeFor peer dhtKey := by
  rintro other _ ⟨friend, hFriend, _⟩
  rw [AppState.friend?, h] at hFriend
  cases hFriend

theorem takesOwn_of_friendless {state : AppState} (h : state.friends = []) (sender : String) (payload : MessagePayload) :
    state.TakesOwn sender payload := by
  cases payload with
  | friendRequest request => exact fun _ _ => freeFor_of_friendless h sender _
  | friendAccept accept => exact fun _ _ => freeFor_of_friendless h sender _
  | profileKeyRotated newProfileDhtKey =>
    exact ⟨freeFor_of_friendless h sender _, fun _ dhtKey _ _ _ => freeFor_of_friendless h sender dhtKey⟩
  | _ => trivial

theorem bobAccepts_attributed :
    Along (step externals) (LeavesOthersRecords externals) (blank 2) bobAccepts ∧
      (final (step externals) (blank 2) bobAccepts).Attributes := by
  refine presence_attributed externals (blank 2) ⟨rfl, rfl, rfl⟩ bobAccepts ⟨fun _ _ hRow => ?_, fun payload _ => ?_,
    fun profileDhtKey _ => ?_, trivial⟩
  · cases hRow
  · exact takesOwn_of_friendless (by decide +kernel) _ payload
  · exact freeFor_of_friendless (by decide +kernel) _ profileDhtKey

def carolRequest : MessageEnvelope :=
  envelope 3 1 (externals.payloadToVec (.friendRequest
    ⟨"Carol", "hi", externals.bundleToVec (offeredBundle primitives (Signal.Reference.user 3)
      (sampleKey 3) (sampleKey 4) (sampleKey 5) (some 1)), "carol-profile", [7], "carol-mailbox"⟩))

/-- Carol, a friend of Bob's, announces Alice's record as her new one. -/
def carolClaims : MessageEnvelope := envelope 3 2 (externals.payloadToVec (.profileKeyRotated "alice-profile"))

/-- From then on Alice's presence is taken to be Carol's. -/
theorem carolClaims_misattributed : ¬∀ actions,
    Along (step externals) (LeavesOthersRecords externals) (blank 2) actions ∧
      (final (step externals) (blank 2) actions).Attributes := by
  intro hAll
  have hAlice := (hAll (bobAccepts ++ [(ambientOf 30, .receive carolRequest),
    (ambientOf 40, .acceptRequest (address 3) "Carol"), (ambientOf 50, .receive carolClaims)])).2 (address 1)
    (newFriend (address 1) "Alice" (some "alice-profile") (some "alice-mailbox") .accepted) "alice-profile"
    (by decide +kernel) (by decide +kernel) rfl (by decide +kernel)
  revert hAlice
  decide +kernel

end Reference

end Rekindle.Client
