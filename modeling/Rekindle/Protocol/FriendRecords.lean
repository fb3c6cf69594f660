import Rekindle.Library.Keyed
import Rekindle.Protocol.CapnpWire
import Rekindle.Protocol.CommunityRecords
import Rekindle.Protocol.Reference

/-! # The friend list in its DHT record

Every edit reads the whole list, changes it and writes it back. The record has no place for the profile key of
a friend, and a nickname or group that is empty is read as none.
-/
namespace Rekindle.CapnpCodec
set_option autoImplicit false

open Capnp Codecs Fallible Utf8
open Protocol (Bytes ProtocolError Dht DhtM Record getDhtValue setDhtValue)

variable {RecordKey KeyPair : Type} [DecidableEq RecordKey] [DecidableEq KeyPair] (capnp : Library Bytes)

def readFriends (key : RecordKey) : DhtM RecordKey KeyPair (List FriendEntry) := do
  let value ← getDhtValue "get_dht_value" key 0
  ofExcept (readFriendList capnp value)

def wireFriendList : Codec ProtocolError Bytes (List FriendEntry) := friendList.through (packed capnp .friendList)

def writeFriends (key : RecordKey) (friends : List FriendEntry) : DhtM RecordKey KeyPair Unit := do
  let data ← ofExcept ((wireFriendList capnp).encode friends)
  setDhtValue "set_dht_value" key 0 data

def addFriend (key : RecordKey) (entry : FriendEntry) : DhtM RecordKey KeyPair Unit := do
  let friends ← readFriends capnp key
  if friends.any fun f => f.publicKey == entry.publicKey then pure ()
  else writeFriends capnp key (friends ++ [entry])

def removeFriend (key : RecordKey) (publicKey : String) : DhtM RecordKey KeyPair Unit := do
  let friends ← readFriends capnp key
  writeFriends capnp key (Keyed.remove FriendEntry.publicKey publicKey friends)

/-- The fields that are given replace those of the entry. -/
def editEntry (nickname group : Option String) (entry : FriendEntry) : FriendEntry :=
  { entry with nickname := nickname.or entry.nickname, group := group.or entry.group }

def updateFriend (key : RecordKey) (publicKey : String) (nickname group : Option String) :
    DhtM RecordKey KeyPair Unit := do
  let friends ← readFriends capnp key
  writeFriends capnp key (Keyed.update FriendEntry.publicKey publicKey (editEntry nickname group) friends)

inductive FriendEdit where
  | add (entry : FriendEntry)
  | remove (publicKey : String)
  | update (publicKey : String) (nickname group : Option String)

def FriendEdit.perform (key : RecordKey) : FriendEdit → DhtM RecordKey KeyPair Unit
  | .add entry => addFriend capnp key entry
  | .remove publicKey => removeFriend capnp key publicKey
  | .update publicKey nickname group => updateFriend capnp key publicKey nickname group

/-! ## What an edit does to the list -/

/-- The entry as it is read back. -/
def settle (entry : FriendEntry) : FriendEntry :=
  { entry with nickname := entry.nickname.filter (· != ""), group := entry.group.filter (· != ""), profileDhtKey := none }

/-- The friend that an edit is about. -/
def FriendEdit.publicKey : FriendEdit → String
  | .add entry => entry.publicKey
  | .remove publicKey => publicKey
  | .update publicKey _ _ => publicKey

/-- The list after the edit; an added friend comes last, and of several with one key the first is updated. -/
def FriendEdit.apply (friends : List FriendEntry) : FriendEdit → List FriendEntry
  | .add entry => if friends.any fun f => f.publicKey == entry.publicKey then friends else friends ++ [settle entry]
  | .remove publicKey => Keyed.remove FriendEntry.publicKey publicKey friends
  | .update publicKey nickname group =>
    Keyed.update FriendEntry.publicKey publicKey (fun entry => settle (editEntry nickname group entry)) friends

/-- The list that the record of the key holds, if it can be read. -/
def storedFriends (dht : Dht RecordKey KeyPair) (key : RecordKey) : Option (List FriendEntry) :=
  (dht.records key).bind fun record => (readFriendList capnp (record.values 0)).toOption

section
variable {capnp} {friends : List FriendEntry} {entry : FriendEntry}

theorem settle_normal (entry : FriendEntry) : EntryNormal (settle entry) := by
  refine ⟨?_, ?_, rfl⟩
  · simp [settle]
  · simp [settle]

theorem filter_nonempty {text : Option String} (h : text ≠ some "") : text.filter (· != "") = text := by
  cases text with
  | none => rfl
  | some text => simpa [Option.filter] using h

theorem settle_eq_self (h : EntryNormal entry) : settle entry = entry := by
  rw [settle, filter_nonempty h.nickname, filter_nonempty h.group, ← h.profileDhtKey]

theorem getOptionalText_set (text : Option String) :
    getOptionalText (setOptionalText text) = .ok (text.filter (· != "")) := by
  by_cases hEmpty : text = some ""
  · subst hEmpty
    decide
  · rw [getOptionalText_setOptionalText hEmpty, filter_nonempty hEmpty]

/-- The record keeps an entry only as far as it has room for it. -/
theorem decode_encodeFriendEntry (entry : FriendEntry) :
    decodeFriendEntry (encodeFriendEntry entry) = .ok (settle entry) := by
  simp only [decodeFriendEntry, encodeFriendEntry, get_some, ofBytes_toBytes, getOptionalText_set]
  rfl

/-- The library returns the friend lists that were set. -/
def ReturnsFriendLists (capnp : Library Bytes) : Prop :=
  ∀ message, capnp.readMessage .friendList (capnp.writeMessage .friendList message) = .ok message

theorem readFriendList_of_encode (hCapnp : ReturnsFriendLists capnp) {data : Bytes}
    (h : (wireFriendList capnp).encode friends = .ok data) :
    readFriendList capnp (some data) = .ok (friends.map settle) := by
  obtain ⟨message, hMessage, hData⟩ := bind_eq_ok_iff.mp h
  obtain ⟨list, hList, hMessage⟩ := bind_eq_ok_iff.mp hMessage
  cases hMessage
  cases hData
  have hItems : friends.map encodeFriendEntry = list.items := initList_eq_ok_iff.mp hList
  rw [readFriendList, hCapnp]
  change list.items.mapM decodeFriendEntry = _
  have hSettle : decodeFriendEntry ∘ encodeFriendEntry = fun entry => .ok (settle entry) :=
    funext decode_encodeFriendEntry
  rw [← hItems, List.mapM_map, hSettle]
  exact Codec.mapM_ok settle friends

/-- What is read from a record is settled. -/
theorem normal_of_readFriendList {value : Option Bytes} (h : readFriendList capnp value = .ok friends) :
    ∀ entry ∈ friends, EntryNormal entry := by
  cases value with
  | none =>
    cases h
    simp
  | some data =>
    obtain ⟨root, -, hDecode⟩ := bind_eq_ok_iff.mp h
    exact (friendList_faithful.normal root friends hDecode).2

/-! ## Calls that go through -/

variable {dht after : Dht RecordKey KeyPair} {key : RecordKey}

theorem readFriends_eq_ok (h : (readFriends capnp key).run dht = .ok friends after) :
    storedFriends capnp dht key = some friends ∧ (∀ entry ∈ friends, EntryNormal entry) ∧ after.records = dht.records := by
  obtain ⟨value, read, hGet, hDecode⟩ := run_bind_eq_ok_iff.mp h
  obtain ⟨-, rfl, record, hRecord, rfl⟩ := Protocol.getDhtValue_eq_ok hGet
  cases hFriends : readFriendList capnp (record.values 0) with
  | error e =>
    rw [hFriends] at hDecode
    cases hDecode
  | ok found =>
    rw [hFriends] at hDecode
    cases hDecode
    refine ⟨?_, normal_of_readFriendList hFriends, rfl⟩
    rw [storedFriends, hRecord, Option.bind_some, hFriends]
    rfl

theorem writeFriends_eq_ok (hCapnp : ReturnsFriendLists capnp)
    {unit : Unit} (h : (writeFriends capnp key friends).run dht = .ok unit after) :
    storedFriends capnp after key = some (friends.map settle) ∧ ∀ other ≠ key, after.records other = dht.records other := by
  obtain ⟨data, encoded, hEncode, hSet⟩ := run_bind_eq_ok_iff.mp h
  cases hData : (wireFriendList capnp).encode friends with
  | error e =>
    rw [hData] at hEncode
    cases hEncode
  | ok wire =>
    rw [hData] at hEncode
    cases hEncode
    obtain ⟨-, record, -, -, -, rfl⟩ := Protocol.setDhtValue_eq_ok hSet
    constructor
    · change ((Function.update dht.records key (some (record.write 0 data))) key).bind _ = _
      rw [Function.update_self, Option.bind_some, Record.write_values_self, readFriendList_of_encode hCapnp hData]
      rfl
    · intro other hOther
      exact Function.update_of_ne hOther ..

theorem map_settle (hNormal : ∀ entry ∈ friends, EntryNormal entry) : friends.map settle = friends := by
  rw [List.map_congr_left fun entry hEntry => settle_eq_self (hNormal entry hEntry), List.map_id']

theorem map_settle_update {publicKey : String} {change : FriendEntry → FriendEntry}
    (hNormal : ∀ entry ∈ friends, EntryNormal entry) :
    (Keyed.update FriendEntry.publicKey publicKey change friends).map settle =
      Keyed.update FriendEntry.publicKey publicKey (fun entry => settle (change entry)) friends := by
  induction friends with
  | nil => rfl
  | cons entry rest ih =>
    rw [List.forall_mem_cons] at hNormal
    rw [Keyed.update, Keyed.update]
    split
    · rw [List.map_cons, map_settle hNormal.2]
    · rw [List.map_cons, settle_eq_self hNormal.1, ih hNormal.2]

/-- Every entry of another friend stays as it is. -/
theorem remove_apply (edit : FriendEdit) (friends : List FriendEntry) :
    Keyed.remove FriendEntry.publicKey edit.publicKey (edit.apply friends) =
      Keyed.remove FriendEntry.publicKey edit.publicKey friends := by
  cases edit with
  | add entry =>
    rw [FriendEdit.apply]
    split
    · rfl
    · simp [Keyed.remove, FriendEdit.publicKey, settle]
  | remove publicKey =>
    simp [Keyed.remove, FriendEdit.apply, FriendEdit.publicKey]
  | update publicKey nickname group =>
    exact Keyed.remove_update _ fun _ => rfl

/-- An edit that returns changes the stored list at its own friend only. -/
theorem friendEdit_frame (hCapnp : ReturnsFriendLists capnp) (edit : FriendEdit) {unit : Unit}
    (h : (edit.perform capnp key).run dht = .ok unit after) :
    ∃ friends, storedFriends capnp dht key = some friends ∧ storedFriends capnp after key = some (edit.apply friends) ∧
      Keyed.remove FriendEntry.publicKey edit.publicKey (edit.apply friends) =
        Keyed.remove FriendEntry.publicKey edit.publicKey friends ∧
      ∀ other ≠ key, after.records other = dht.records other := by
  suffices hEdit : ∃ friends, storedFriends capnp dht key = some friends ∧
      storedFriends capnp after key = some (edit.apply friends) ∧ ∀ other ≠ key, after.records other = dht.records other by
    obtain ⟨friends, hBefore, hAfter, hOthers⟩ := hEdit
    exact ⟨friends, hBefore, hAfter, remove_apply edit friends, hOthers⟩
  cases edit with
  | add entry =>
    obtain ⟨friends, read, hRead, hWrite⟩ := run_bind_eq_ok_iff.mp h
    obtain ⟨hBefore, hNormal, hRecords⟩ := readFriends_eq_ok hRead
    refine ⟨friends, hBefore, ?_⟩
    rw [FriendEdit.apply]
    split at hWrite
    · next hKnown =>
      cases hWrite
      rw [if_pos hKnown]
      refine ⟨?_, fun other _ => congrFun hRecords other⟩
      rw [storedFriends, hRecords]
      exact hBefore
    · next hNew =>
      obtain ⟨hAfter, hOthers⟩ := writeFriends_eq_ok hCapnp hWrite
      rw [if_neg hNew]
      refine ⟨?_, fun other hOther => (hOthers other hOther).trans (congrFun hRecords other)⟩
      rw [hAfter, List.map_append, map_settle hNormal, List.map_singleton]
  | remove publicKey =>
    obtain ⟨friends, read, hRead, hWrite⟩ := run_bind_eq_ok_iff.mp h
    obtain ⟨hBefore, hNormal, hRecords⟩ := readFriends_eq_ok hRead
    obtain ⟨hAfter, hOthers⟩ := writeFriends_eq_ok hCapnp hWrite
    refine ⟨friends, hBefore, ?_, fun other hOther => (hOthers other hOther).trans (congrFun hRecords other)⟩
    have hKept : ∀ entry ∈ Keyed.remove FriendEntry.publicKey publicKey friends, EntryNormal entry :=
      fun entry hEntry => hNormal entry (List.mem_filter.mp hEntry).1
    rw [hAfter, map_settle hKept]
    rfl
  | update publicKey nickname group =>
    obtain ⟨friends, read, hRead, hWrite⟩ := run_bind_eq_ok_iff.mp h
    obtain ⟨hBefore, hNormal, hRecords⟩ := readFriends_eq_ok hRead
    obtain ⟨hAfter, hOthers⟩ := writeFriends_eq_ok hCapnp hWrite
    refine ⟨friends, hBefore, ?_, fun other hOther => (hOthers other hOther).trans (congrFun hRecords other)⟩
    rw [hAfter, map_settle_update hNormal]
    rfl

end

namespace Reference

open Client Json Protocol.Reference

def entryValue (fe : Capnp.FriendEntry) : Value := objectValue [
  ("publicKey", optionValue bytesValue fe.publicKey), ("nickname", optionValue bytesValue fe.nickname),
  ("groupName", optionValue bytesValue fe.groupName), ("addedAt", .number fe.addedAt.toNat)]

def entryOf : Value → Option Capnp.FriendEntry
  | .object fields => do
    pure {
      publicKey := ← field fields "publicKey" (optionOf bytesOf)
      nickname := ← field fields "nickname" (optionOf bytesOf)
      groupName := ← field fields "groupName" (optionOf bytesOf)
      addedAt := ← field fields "addedAt" Protocol.Reference.wordOf }
  | _ => none

def structListOf (value : Value) : Option (StructList Capnp.FriendEntry) :=
  (listOf entryOf value).bind fun items => if h : items.length ≤ maxListLength then some ⟨items, h⟩ else none

def friendListValue (root : FriendList) : Value := optionValue (fun list => listValue entryValue list.items) root.friends

def friendListOf (value : Value) : Option FriendList := (optionOf structListOf value).map FriendList.mk

/-- A library that writes friend lists as JSON. -/
def jsonFriends : Library Bytes where
  writeMessage
    | .friendList => fun message => write (friendListValue message)
    | _ => fun _ => []
  readMessage
    | .friendList => fun bytes => orThrow ((parse bytes).bind friendListOf) "expected value"
    | _ => fun _ => .error "expected value"
  notInSchema n := toString n.toNat

theorem entryOf_entryValue (fe : Capnp.FriendEntry) : entryOf (entryValue fe) = some fe := by
  simp [entryValue, entryOf, objectValue, field, List.lookup_cons, Protocol.Reference.wordOf]

theorem jsonFriends_returns : ReturnsFriendLists jsonFriends := by
  intro message
  change orThrow ((parse (write (friendListValue message))).bind friendListOf) _ = _
  have hList (list : StructList Capnp.FriendEntry) : structListOf (listValue entryValue list.items) = some list := by
    rw [structListOf, listOf_listValue entryOf_entryValue, Option.bind_some, dif_pos list.length_le]
  rw [parse_write, Option.bind_some, orThrow_eq_ok_iff, friendListOf, friendListValue,
    optionOf_optionValue hList rfl]
  rfl

/-- A record with a friend list of Bob and Carol, open for its owner. -/
def friendNetwork : Dht String Nat :=
  { Protocol.Reference.network [] [] with
    records := fun _ => some ⟨7, 1, fun _ => some (jsonFriends.writeMessage .friendList
      ⟨some ⟨[⟨some (toBytes "bob"), none, some (toBytes "work"), 5⟩, ⟨some (toBytes "carol"), none, none, 6⟩],
        by decide⟩⟩)⟩
    opened := fun _ => some (some 7) }

def renameCarol : FriendEdit := .update "carol" (some "Caz") none

theorem friendEdit_frame_renamed : ∃ after friends, storedFriends jsonFriends friendNetwork "list" = some friends ∧
    storedFriends jsonFriends after "list" = some (renameCarol.apply friends) ∧
    Keyed.remove FriendEntry.publicKey "carol" (renameCarol.apply friends) =
      Keyed.remove FriendEntry.publicKey "carol" friends ∧
    ∀ other ≠ "list", after.records other = friendNetwork.records other := by
  have hReturned : (Result.value? ((renameCarol.perform jsonFriends "list").run friendNetwork)).isSome = true := by
    decide +kernel
  cases hRun : (renameCarol.perform jsonFriends "list").run friendNetwork with
  | ok unit after => exact ⟨after, friendEdit_frame jsonFriends_returns renameCarol hRun⟩
  | error e after =>
    rw [hRun] at hReturned
    cases hReturned

end Reference

end Rekindle.CapnpCodec
