import Rekindle.Client.Downgrade

/-! # The friend list, twice

A friend is kept in memory and in a row of the table. The ledger of a state is these two lists and
whose they are; each operation of the client is a few entries in it.
-/
namespace Rekindle.Client
set_option autoImplicit false

open Signal MemoryStores

/-- How a friend stands and how it is reached. -/
structure Standing where
  friendshipState : FriendshipState
  dhtRecordKey : Option String
  mailboxDhtKey : Option String
  deriving DecidableEq

def FriendState.standing (friend : FriendState) : Standing :=
  ⟨friend.friendshipState, friend.dhtRecordKey, friend.mailboxDhtKey⟩

def FriendRow.standing (row : FriendRow) : Standing :=
  ⟨row.friendshipState, row.dhtRecordKey, row.mailboxDhtKey⟩

/-- What the table should have of the friend; nothing while the friend is being removed. -/
def FriendState.filed (friend : FriendState) : Option Standing :=
  if friend.friendshipState = .removing then none else some friend.standing

structure Ledger where
  owner : Option String
  identities : List String
  friends : List FriendState
  rows : List FriendRow

def AppState.ledger (state : AppState) : Ledger where
  owner := state.identity.map IdentityState.publicKey
  identities := state.db.identities
  friends := state.friends
  rows := state.db.friends

namespace Ledger

variable (l : Ledger)

def ownerKey : String := l.owner.getD ""

def friendOf (peer : String) : Option FriendState := Keyed.find FriendState.publicKey peer l.friends

def rowOf (peer : String) : Option FriendRow := Keyed.find FriendRow.key (l.ownerKey, peer) l.rows

/-! ## Entries -/

def remember (peer : String) (change : FriendState → FriendState) : Ledger :=
  { l with friends := Keyed.update FriendState.publicKey peer change l.friends }

def forget (peer : String) : Ledger := { l with friends := Keyed.remove FriendState.publicKey peer l.friends }

def meet (friend : FriendState) : Ledger := { l with friends := Keyed.insert FriendState.publicKey friend l.friends }

def record (peer : String) (change : FriendRow → FriendRow) : Ledger :=
  { l with rows := Keyed.update FriendRow.key (l.ownerKey, peer) change l.rows }

def erase (peer : String) : Ledger := { l with rows := Keyed.remove FriendRow.key (l.ownerKey, peer) l.rows }

def enter (row : FriendRow) : Ledger := { l with rows := l.rows ++ [row] }

theorem record_record {change later : FriendRow → FriendRow} (peer : String)
    (hKey : ∀ row, (change row).key = row.key) :
    (l.record peer change).record peer later = l.record peer (later ∘ change) := by
  have hRows := @Keyed.update_update _ _ _ FriendRow.key (l.ownerKey, peer) l.rows _ later hKey
  rw [record, record, record, ← hRows]
  rfl

theorem remember_remember {change later : FriendState → FriendState} (peer : String)
    (hKey : ∀ friend, (change friend).publicKey = friend.publicKey) :
    (l.remember peer change).remember peer later = l.remember peer (later ∘ change) := by
  rw [remember, remember, remember, Keyed.update_update later hKey]

/-! ## Agreement -/

/-- The table has the peer exactly as memory does. -/
def AgreesAt (peer : String) : Prop :=
  l.owner ≠ none → (l.rowOf peer).map FriendRow.standing = (l.friendOf peer).bind FriendState.filed

/-- The peer's entries apart, the table has what memory has. -/
structure KeptBut (l : Ledger) (peer : String) : Prop where
  distinct : (l.friends.map FriendState.publicKey).Nodup
  keys : (l.rows.map FriendRow.key).Nodup
  settled : ∀ row ∈ l.rows, row.friendshipState ≠ .removing
  known : ∀ owner, l.owner = some owner → owner ∈ l.identities
  agrees : ∀ other, other ≠ peer → l.AgreesAt other

structure Kept (l : Ledger) : Prop where
  distinct : (l.friends.map FriendState.publicKey).Nodup
  keys : (l.rows.map FriendRow.key).Nodup
  settled : ∀ row ∈ l.rows, row.friendshipState ≠ .removing
  known : ∀ owner, l.owner = some owner → owner ∈ l.identities
  agrees : ∀ peer, l.AgreesAt peer

variable {l} {peer : String}

theorem Kept.but (h : l.Kept) (peer : String) : l.KeptBut peer :=
  ⟨h.distinct, h.keys, h.settled, h.known, fun other _ => h.agrees other⟩

theorem KeptBut.kept (h : l.KeptBut peer) (hHere : l.AgreesAt peer) : l.Kept := by
  refine ⟨h.distinct, h.keys, h.settled, h.known, fun other => ?_⟩
  by_cases hOther : other = peer
  · exact hOther ▸ hHere
  · exact h.agrees other hOther

/-! ### Entries of the peer -/

theorem friendOf_remember {change : FriendState → FriendState}
    (hKey : ∀ friend, (change friend).publicKey = friend.publicKey) (other : String) :
    (l.remember peer change).friendOf other =
      if other = peer then (l.friendOf peer).map change else l.friendOf other :=
  Keyed.find_update change hKey other

theorem friendOf_forget (other : String) :
    (l.forget peer).friendOf other = if other = peer then none else l.friendOf other :=
  Keyed.find_remove other

theorem friendOf_meet (friend : FriendState) (other : String) :
    (l.meet friend).friendOf other = if other = friend.publicKey then some friend else l.friendOf other :=
  Keyed.find_insert friend other

theorem friendOf_meet_self (friend : FriendState) : (l.meet friend).friendOf friend.publicKey = some friend :=
  (friendOf_meet friend _).trans (if_pos rfl)

theorem rowOf_record {change : FriendRow → FriendRow} (hKey : ∀ row, (change row).key = row.key) (other : String) :
    (l.record peer change).rowOf other = if other = peer then (l.rowOf peer).map change else l.rowOf other := by
  change Keyed.find FriendRow.key (l.ownerKey, other) (Keyed.update _ _ _ _) = _
  rw [Keyed.find_update change hKey]
  simp only [Prod.mk.injEq, true_and]
  rfl

theorem rowOf_erase (other : String) :
    (l.erase peer).rowOf other = if other = peer then none else l.rowOf other := by
  change Keyed.find FriendRow.key (l.ownerKey, other) (Keyed.remove _ _ _) = _
  rw [Keyed.find_remove]
  simp only [Prod.mk.injEq, true_and]
  rfl

theorem rowOf_enter {row : FriendRow} (hOwner : row.ownerKey = l.ownerKey) (hNew : l.rowOf row.publicKey = none)
    (other : String) :
    (l.enter row).rowOf other = if other = row.publicKey then some row else l.rowOf other := by
  change Keyed.find FriendRow.key (l.ownerKey, other) (l.rows ++ [row]) = _
  rw [Keyed.find_append, Keyed.find_cons, FriendRow.key, hOwner]
  by_cases hOther : other = row.publicKey
  · subst hOther
    rw [if_pos rfl, if_pos rfl]
    exact (congrArg (·.or (some row)) hNew).trans rfl
  · rw [if_neg hOther, if_neg fun h => hOther (Prod.mk.inj h).2.symm]
    exact Option.or_none

@[simp] theorem rowOf_remember (change : FriendState → FriendState) (other : String) :
    (l.remember peer change).rowOf other = l.rowOf other := rfl

@[simp] theorem rowOf_forget (other : String) : (l.forget peer).rowOf other = l.rowOf other := rfl

@[simp] theorem rowOf_meet (friend : FriendState) (other : String) :
    (l.meet friend).rowOf other = l.rowOf other := rfl

@[simp] theorem friendOf_record (change : FriendRow → FriendRow) (other : String) :
    (l.record peer change).friendOf other = l.friendOf other := rfl

@[simp] theorem friendOf_erase (other : String) : (l.erase peer).friendOf other = l.friendOf other := rfl

@[simp] theorem friendOf_enter (row : FriendRow) (other : String) :
    (l.enter row).friendOf other = l.friendOf other := rfl

theorem KeptBut.of_friends {friends : List FriendState} (h : l.KeptBut peer)
    (hDistinct : (friends.map FriendState.publicKey).Nodup)
    (hOther : ∀ other, other ≠ peer → { l with friends := friends }.friendOf other = l.friendOf other) :
    { l with friends := friends }.KeptBut peer := by
  refine ⟨hDistinct, h.keys, h.settled, h.known, fun other hDiffers hOwner => ?_⟩
  rw [hOther other hDiffers]
  exact h.agrees other hDiffers hOwner

theorem KeptBut.remember (h : l.KeptBut peer) {change : FriendState → FriendState}
    (hKey : ∀ friend, (change friend).publicKey = friend.publicKey) : (l.remember peer change).KeptBut peer :=
  h.of_friends ((Keyed.map_key_update hKey).symm ▸ h.distinct) fun other hOther => (friendOf_remember hKey other).trans (if_neg hOther)

theorem KeptBut.forget (h : l.KeptBut peer) : (l.forget peer).KeptBut peer :=
  h.of_friends (h.distinct.sublist (List.filter_sublist.map _)) fun other hOther => (friendOf_forget other).trans (if_neg hOther)

theorem KeptBut.meet (h : l.KeptBut peer) {friend : FriendState} (hKey : friend.publicKey = peer) :
    (l.meet friend).KeptBut peer :=
  h.of_friends (Keyed.nodup_insert friend h.distinct) fun other hOther => (friendOf_meet friend other).trans (if_neg (hKey ▸ hOther))

theorem KeptBut.record (h : l.KeptBut peer) {change : FriendRow → FriendRow} (hKey : ∀ row, (change row).key = row.key)
    (hState : ∀ row, row.friendshipState ≠ .removing → (change row).friendshipState ≠ .removing) :
    (l.record peer change).KeptBut peer := by
  refine ⟨h.distinct, ?_, fun row hRow => ?_, h.known, fun other hOther hOwner => ?_⟩
  · exact (Keyed.map_key_update hKey).symm ▸ h.keys
  · rcases Keyed.mem_of_mem_update hRow with hOld | ⟨former, hFormer, rfl⟩
    · exact h.settled row hOld
    · exact hState former (h.settled former (List.mem_of_find?_eq_some hFormer))
  · rw [rowOf_record hKey, if_neg hOther]
    exact h.agrees other hOther hOwner

theorem KeptBut.erase (h : l.KeptBut peer) : (l.erase peer).KeptBut peer := by
  refine ⟨h.distinct, h.keys.sublist (List.filter_sublist.map _), fun row hRow => h.settled row (List.mem_filter.mp hRow).1,
    h.known, fun other hOther hOwner => ?_⟩
  rw [rowOf_erase, if_neg hOther]
  exact h.agrees other hOther hOwner

theorem KeptBut.enter (h : l.KeptBut peer) {row : FriendRow} (hKey : row.key = (l.ownerKey, peer))
    (hNew : l.rowOf peer = none) (hState : row.friendshipState ≠ .removing) : (l.enter row).KeptBut peer := by
  obtain ⟨hOwnerKey, rfl⟩ := Prod.mk.inj hKey
  refine ⟨h.distinct, ?_, fun other hOther => ?_, h.known, fun other hOther hOwner => ?_⟩
  · rw [Ledger.enter, List.map_append]
    refine h.keys.append (List.nodup_singleton _) (List.disjoint_singleton.mpr fun hRow => ?_)
    obtain ⟨former, hFormer, hSame⟩ := List.mem_map.mp hRow
    exact Keyed.find_eq_none_iff.mp hNew former hFormer (hSame.trans hKey)
  · rcases List.mem_append.mp hOther with hOld | hRow
    · exact h.settled other hOld
    · exact List.mem_singleton.mp hRow ▸ hState
  · rw [rowOf_enter hOwnerKey hNew, if_neg hOther]
    exact h.agrees other hOther hOwner

/-- A friend that is not being removed has a row that stands as it does. -/
theorem Kept.row (h : l.Kept) (hOwner : l.owner ≠ none) {friend : FriendState} (hFriend : l.friendOf peer = some friend)
    (hStays : friend.friendshipState ≠ .removing) :
    ∃ row, l.rowOf peer = some row ∧ row.standing = friend.standing := by
  have hAgrees := h.agrees peer hOwner
  rw [hFriend, Option.bind_some, FriendState.filed, if_neg hStays] at hAgrees
  exact Option.map_eq_some_iff.mp hAgrees

theorem Kept.noRow (h : l.Kept) (hOwner : l.owner ≠ none)
    (hAway : (l.friendOf peer).bind FriendState.filed = none) : l.rowOf peer = none :=
  Option.map_eq_none_iff.mp ((h.agrees peer hOwner).trans hAway)

/-- A friend and its row change in the same way. -/
theorem Kept.amend (h : l.Kept) {change : FriendState → FriendState} {changeRow : FriendRow → FriendRow}
    (hKey : ∀ friend, (change friend).publicKey = friend.publicKey) (hRowKey : ∀ row, (changeRow row).key = row.key)
    (hState : ∀ row, row.friendshipState ≠ .removing → (changeRow row).friendshipState ≠ .removing)
    (hHere : ∀ friend, l.friendOf peer = some friend →
      if friend.friendshipState = .removing then (change friend).friendshipState = .removing
      else ∀ row : FriendRow, row.standing = friend.standing → (change friend).filed = some (changeRow row).standing) :
    ((l.remember peer change).record peer changeRow).Kept := by
  refine (((h.but peer).remember hKey).record hRowKey hState).kept fun hOwner => ?_
  rw [rowOf_record hRowKey, if_pos rfl, rowOf_remember, friendOf_record, friendOf_remember hKey, if_pos rfl]
  cases hFriend : l.friendOf peer with
  | none =>
    have hRow := @Kept.noRow l peer h hOwner (by rw [hFriend, Option.bind_none])
    rw [hRow]
    rfl
  | some friend =>
    have hChanged := hHere friend hFriend
    split at hChanged
    · next hRemoving =>
      have hRow := @Kept.noRow l peer h hOwner (by rw [hFriend, Option.bind_some, FriendState.filed, if_pos hRemoving])
      rw [hRow, Option.map_some, Option.bind_some, FriendState.filed, if_pos hChanged]
      rfl
    · next hStays =>
      obtain ⟨row, hRow, hStanding⟩ := h.row hOwner hFriend hStays
      rw [hRow, Option.map_some, Option.map_some, Option.map_some, Option.bind_some]
      exact (hChanged row hStanding).symm

/-- Changes that do not touch a friend's standing. -/
theorem Kept.remember (h : l.Kept) {change : FriendState → FriendState}
    (hKey : ∀ friend, (change friend).publicKey = friend.publicKey)
    (hHere : ∀ friend, l.friendOf peer = some friend → (change friend).filed = friend.filed) :
    (l.remember peer change).Kept := by
  refine ((h.but peer).remember hKey).kept fun hOwner => ?_
  rw [rowOf_remember, friendOf_remember hKey, if_pos rfl, h.agrees peer hOwner]
  cases hFriend : l.friendOf peer with
  | none => rfl
  | some friend => exact (hHere friend hFriend).symm

/-- A peer is dropped from both lists. -/
theorem Kept.drop (h : l.Kept) (peer : String) : ((l.erase peer).forget peer).Kept := by
  refine ((h.but peer).erase.forget).kept fun _ => ?_
  rw [friendOf_forget, if_pos rfl]
  have hRow := @rowOf_erase l peer peer
  rw [if_pos rfl] at hRow
  exact (congrArg (Option.map FriendRow.standing) hRow).trans rfl

end Ledger

end Rekindle.Client
