import Rekindle.Protocol.Records

/-! # Short arrays

An ordered collection in the subkeys of one record. Subkey 0 holds the head, which lists the slots
of the elements in order; the data of slot `i` is in subkey `i + 1`.
-/
namespace Rekindle.Protocol
set_option autoImplicit false

open Fallible

structure ShortArrayHead where
  stride : Nat
  slots : List Nat
  deriving DecidableEq

structure LogSpine where
  totalCount : UInt64
  segmentCapacity : Nat
  segments : List String
  deriving DecidableEq

/-- `serde_json` on heads and spines, and record keys as text. -/
structure Codec (RecordKey : Type) where
  headToVec : ShortArrayHead → Bytes
  headFromSlice : Bytes → Except String ShortArrayHead
  spineToVec : LogSpine → Bytes
  spineFromSlice : Bytes → Except String LogSpine
  keyToString : RecordKey → String
  parseKey : String → Except String RecordKey

/-- What is written is read back. The text of a spine names each segment, and the head of a record
with at most 255 slots fits into a value. -/
structure Codec.Laws {RecordKey : Type} (codec : Codec RecordKey) : Prop where
  head : ∀ head, codec.headFromSlice (codec.headToVec head) = .ok head
  spine : ∀ spine, codec.spineFromSlice (codec.spineToVec spine) = .ok spine
  key : ∀ key, codec.parseKey (codec.keyToString key) = .ok key
  segments_le : ∀ spine, spine.segments.length ≤ (codec.spineToVec spine).length
  head_le : ∀ head, head.slots.length ≤ 255 → (∀ slot ∈ head.slots, slot < 255) → head.stride = 255 →
    (codec.headToVec head).length ≤ maxValueSize

structure DHTShortArray (RecordKey KeyPair : Type) where
  recordKey : RecordKey
  ownerKeypair : Option KeyPair
  stride : Nat

/-- The lowest slot that the head does not use, or the stride. -/
def findFreeSlot (stride : Nat) (head : ShortArrayHead) : Nat :=
  ((List.range stride).find? fun slot => !head.slots.contains slot).getD stride

variable {RecordKey KeyPair : Type} [DecidableEq RecordKey] [DecidableEq KeyPair] (codec : Codec RecordKey)

def readHeadRaw (key : RecordKey) : DhtM RecordKey KeyPair ShortArrayHead := do
  match ← getDhtValue "read head" key 0 with
  | some bytes => ofExcept ((codec.headFromSlice bytes).mapError fun e => .deserialization ("head parse: " ++ e))
  | none => throw (.dhtError "head subkey not set")

namespace DHTShortArray

/-- The owner's secret is one more answer of the network's. -/
def create (capacity : Nat) (owner : Option KeyPair) :
    DhtM RecordKey KeyPair (DHTShortArray RecordKey KeyPair × KeyPair) := do
  if capacity = 65535 then throw (.dhtError "capacity overflow (max 65534)") else
    let (key, keypair) ← createDhtRecord "create short array record" (capacity + 1) owner
    reach fun _ => .dhtError "no owner secret after create"
    setDhtValue "write head" key 0 (codec.headToVec ⟨capacity, []⟩)
    pure (⟨key, some keypair, capacity⟩, keypair)

def «open» (key : String) (writer : Option KeyPair) :
    DhtM RecordKey KeyPair (DHTShortArray RecordKey KeyPair) := do
  let recordKey ← ofExcept ((codec.parseKey key).mapError fun e =>
    .dhtError ("invalid key '" ++ key ++ "': " ++ e))
  openDhtRecord "open short array" recordKey writer
  let head ← readHeadRaw codec recordKey
  pure ⟨recordKey, writer, head.stride⟩

def add (array : DHTShortArray RecordKey KeyPair) (data : Bytes) : DhtM RecordKey KeyPair Nat := do
  let head ← readHeadRaw codec array.recordKey
  if array.stride ≤ head.slots.length then throw (.dhtError "short array is full") else
    let slot := findFreeSlot array.stride head
    setDhtValue ("write slot " ++ toString slot) array.recordKey (slot + 1) data
    setDhtValue "write head" array.recordKey 0 (codec.headToVec { head with slots := head.slots ++ [slot] })
    pure head.slots.length

def get (array : DHTShortArray RecordKey KeyPair) (index : Nat) : DhtM RecordKey KeyPair (Option Bytes) := do
  let head ← readHeadRaw codec array.recordKey
  match head.slots[index]? with
  | none => pure none
  | some slot => getDhtValue "read slot" array.recordKey (slot + 1)

def outOfBounds (index length : Nat) : String :=
  "index " ++ toString index ++ " out of bounds (len=" ++ toString length ++ ")"

def remove (array : DHTShortArray RecordKey KeyPair) (index : Nat) : DhtM RecordKey KeyPair Unit := do
  let head ← readHeadRaw codec array.recordKey
  match head.slots[index]? with
  | none => throw (.dhtError (outOfBounds index head.slots.length))
  | some slot =>
    setDhtValue ("clear slot " ++ toString slot) array.recordKey (slot + 1) []
    setDhtValue "write head" array.recordKey 0 (codec.headToVec { head with slots := head.slots.eraseIdx index })

def len (array : DHTShortArray RecordKey KeyPair) : DhtM RecordKey KeyPair Nat := do
  let head ← readHeadRaw codec array.recordKey
  pure head.slots.length

/-- The loop of `clear` over the slots in use. -/
def clearSlots (array : DHTShortArray RecordKey KeyPair) : List Nat → DhtM RecordKey KeyPair Unit
  | [] => pure ()
  | slot :: slots => do
    setDhtValue ("clear slot " ++ toString slot) array.recordKey (slot + 1) []
    clearSlots array slots

def clear (array : DHTShortArray RecordKey KeyPair) : DhtM RecordKey KeyPair Unit := do
  let head ← readHeadRaw codec array.recordKey
  array.clearSlots head.slots
  setDhtValue "write head" array.recordKey 0 (codec.headToVec ⟨array.stride, []⟩)

/-- The loop of `get_all` over the slots in use. -/
def readSlots (array : DHTShortArray RecordKey KeyPair) : List Nat → DhtM RecordKey KeyPair (List Bytes)
  | [] => pure []
  | slot :: slots => do
    let value ← getDhtValue "read slot" array.recordKey (slot + 1)
    let rest ← readSlots array slots
    pure (value.getD [] :: rest)

def getAll (array : DHTShortArray RecordKey KeyPair) : DhtM RecordKey KeyPair (List Bytes) := do
  let head ← readHeadRaw codec array.recordKey
  array.readSlots head.slots

end DHTShortArray

/-! ## Elements in a record -/

/-- The record holds the elements in its first slots. -/
structure Record.Holds (record : Record KeyPair) (entries : List Bytes) : Prop where
  subkeys : record.subkeys = 256
  length_le : entries.length ≤ 255
  head : record.values 0 = some (codec.headToVec ⟨255, List.range entries.length⟩)
  slot : ∀ i (h : i < entries.length), record.values (i + 1) = some entries[i]

section Elements

variable {codec}
omit [DecidableEq RecordKey] [DecidableEq KeyPair]

theorem findFreeSlot_range {count : Nat} (h : count < 255) :
    findFreeSlot 255 ⟨255, List.range count⟩ = count := by
  have hFind : (List.range 255).find? (fun slot => !(List.range count).contains slot) = some count := by
    rw [List.find?_range_eq_some]
    refine ⟨by simp, by simpa using h, fun slot hSlot => by simpa using hSlot⟩
  rw [findFreeSlot, hFind, Option.getD_some]

variable {record : Record KeyPair} {entries : List Bytes}

theorem record_holds_nil (owner : KeyPair) :
    ((⟨owner, 256, fun _ => none⟩ : Record KeyPair).write 0 (codec.headToVec ⟨255, []⟩)).Holds codec [] where
  subkeys := rfl
  length_le := Nat.zero_le _
  head := Record.write_values_self ..
  slot _ h := absurd h (Nat.not_lt_zero _)

/-- A slot that is not in use may hold anything. -/
theorem Record.Holds.write_free (h : record.Holds codec entries) (data : Bytes) :
    (record.write (entries.length + 1) data).Holds codec entries where
  subkeys := h.subkeys
  length_le := h.length_le
  head := by rw [record.write_values_of_ne data (by omega), h.head]
  slot i hi := by rw [record.write_values_of_ne data (by omega), h.slot i hi]

theorem Record.Holds.append (h : record.Holds codec entries) (hRoom : entries.length < 255) (data : Bytes) :
    ((record.write (entries.length + 1) data).write 0
      (codec.headToVec ⟨255, List.range (entries.length + 1)⟩)).Holds codec (entries ++ [data]) where
  subkeys := h.subkeys
  length_le := by
    rw [List.length_append]
    exact hRoom
  head := by rw [List.length_append, Record.write_values_self, List.length_singleton]
  slot i hi := by
    rw [Record.write_values_of_ne _ _ (by omega)]
    by_cases hLast : i = entries.length
    · subst hLast
      rw [Record.write_values_self, List.getElem_concat_length rfl]
    · have hOld : i < entries.length := by
        rw [List.length_append, List.length_singleton] at hi
        omega
      rw [Record.write_values_of_ne _ _ (by omega), List.getElem_append_left hOld, h.slot i hOld]

end Elements

/-! ## The operations -/

/-- The record of the key, and no other, is rewritten: it holds the elements now. -/
structure Rewritten (key : RecordKey) (owner : KeyPair) (entries : List Bytes)
    (before after : Dht RecordKey KeyPair) : Prop where
  opened : after.opened = before.opened
  record : ∃ record, after.records = Function.update before.records key (some record) ∧
    record.owner = owner ∧ record.Holds codec entries

section Operations

variable {codec}
variable {dht : Dht RecordKey KeyPair} {key : RecordKey} {record : Record KeyPair} {entries : List Bytes}

omit [DecidableEq RecordKey] [DecidableEq KeyPair] in
theorem readHeadRaw_settles (hLaws : codec.Laws) (hRecord : dht.records key = some record)
    (hHolds : record.Holds codec entries) (hOpen : dht.opened key ≠ none) :
    Settles (fun head after => head = ⟨255, List.range entries.length⟩ ∧ dht.fault? = none ∧ after = dht.next)
      (fun _ after => dht.fault? ≠ none ∧ after = dht.next.failed) (readHeadRaw codec key) dht := by
  have hSubkey : 0 < record.subkeys := by
    rw [hHolds.subkeys]
    omega
  refine (getDhtValue_settles "read head" hRecord hOpen hSubkey).bind ?_ fun _ _ h => h
  rintro _ _ ⟨hFault, rfl, rfl⟩
  simp only [hHolds.head, hLaws.head]
  exact ⟨rfl, hFault, rfl⟩

theorem DHTShortArray.add_settles (hLaws : codec.Laws) (hRecord : dht.records key = some record)
    (hHolds : record.Holds codec entries) (hOpen : dht.opened key = some (some record.owner))
    (hRoom : entries.length < 255) (writer : Option KeyPair) (data : Bytes) :
    Settles (fun _ after => Passed 3 dht after ∧ data.length ≤ maxValueSize ∧
        Rewritten codec key record.owner (entries ++ [data]) dht after)
      (fun _ after => (data.length ≤ maxValueSize → ¬dht.Passes 3) ∧ after.failures = dht.failures + 1 ∧
        Rewritten codec key record.owner entries dht after)
      ((⟨key, writer, 255⟩ : DHTShortArray RecordKey KeyPair).add codec data) dht := by
  have hSame : dht.records = Function.update dht.records key (some record) :=
    (Function.update_eq_self_iff.mpr hRecord.symm).symm
  refine (readHeadRaw_settles hLaws hRecord hHolds (by simp [hOpen])).bind ?_ ?_
  · rintro _ _ ⟨rfl, hRead, rfl⟩
    simp only [List.length_range, Nat.not_le.mpr hRoom, if_false, findFreeSlot_range hRoom, ← List.range_succ]
    have hFirst : Passed 1 dht dht.next := passed_one hRead rfl rfl
    have hRecord' : dht.next.records key = some record := hRecord
    have hOpen' : dht.next.opened key = some (some record.owner) := hOpen
    have hSubkey : entries.length + 1 < record.subkeys := by
      rw [hHolds.subkeys]
      omega
    refine (setDhtValue_settles _ hRecord' hOpen' hSubkey).bind ?_ ?_
    · rintro _ _ ⟨hSlot, hSize, rfl⟩
      have hSecond : Passed 2 dht (dht.next.next.withRecord key (record.write (entries.length + 1) data)) :=
        hFirst.next hSlot rfl rfl
      have hWritten : (dht.next.next.withRecord key (record.write (entries.length + 1) data)).records key =
          some (record.write (entries.length + 1) data) := Function.update_self ..
      have hHead : 0 < (record.write (entries.length + 1) data).subkeys := Nat.zero_lt_of_lt hSubkey
      refine (setDhtValue_settles _ hWritten hOpen hHead).bind ?_ ?_
      · rintro _ _ ⟨hHead, -, rfl⟩
        exact ⟨hSecond.next hHead rfl rfl, hSize, rfl, _, Function.update_idem .., rfl, hHolds.append hRoom data⟩
      · rintro _ _ ⟨hHead, rfl⟩
        have hFits := hLaws.head_le ⟨255, List.range (entries.length + 1)⟩ (by simpa using Nat.succ_le_of_lt hRoom)
          (by simpa using fun _ h => Nat.lt_of_lt_of_le h hRoom) rfl
        exact ⟨fun _ hPasses => hHead hFits (hSecond.fault?_eq_none hPasses (by decide)), rfl, rfl, _, rfl, rfl,
          hHolds.write_free data⟩
    · rintro _ _ ⟨hSlot, rfl⟩
      exact ⟨fun hSize hPasses => hSlot hSize (hFirst.fault?_eq_none hPasses (by decide)), rfl, rfl, record, hSame, rfl,
        hHolds⟩
  · rintro _ _ ⟨hRead, rfl⟩
    exact ⟨fun _ hPasses => hRead (hPasses.fault?_eq_none (by decide)), rfl, rfl, record, hSame, rfl, hHolds⟩

/-- A full array takes nothing more, whatever the network does. -/
theorem DHTShortArray.add_full_settles (hLaws : codec.Laws) (hRecord : dht.records key = some record)
    (hHolds : record.Holds codec entries) (hOpen : dht.opened key ≠ none) (hFull : 255 ≤ entries.length)
    (writer : Option KeyPair) (data : Bytes) :
    Settles (fun _ _ => False) (fun _ after => dht.fault? = none → after.failures = dht.failures)
      ((⟨key, writer, 255⟩ : DHTShortArray RecordKey KeyPair).add codec data) dht := by
  refine (readHeadRaw_settles hLaws hRecord hHolds hOpen).bind ?_ ?_
  · rintro _ _ ⟨rfl, -, rfl⟩
    simp only [List.length_range, hFull, if_true]
    exact settles_throw fun _ => rfl
  · rintro _ _ ⟨hRead, rfl⟩ hNone
    exact absurd hNone hRead

theorem DHTShortArray.create_settles (hLaws : codec.Laws) (owner : KeyPair) :
    Settles (fun (created : DHTShortArray RecordKey KeyPair × KeyPair) after =>
        ∃ key record, created.1 = ⟨key, some owner, 255⟩ ∧ dht.offer? = some key ∧ dht.records key = none ∧
          Passed 3 dht after ∧ after.records = Function.update dht.records key (some record) ∧
          after.opened = Function.update dht.opened key (some (some owner)) ∧
          record.owner = owner ∧ record.Holds codec [])
      (fun _ after => (dht.Passes 3 → dht.Exhausted) ∧ after.failures = dht.failures + 1 ∧ Extends dht after)
      (DHTShortArray.create codec 255 (some owner)) dht := by
  have hCreated {key : RecordKey} (hFree : dht.records key = none) {after : Dht RecordKey KeyPair}
      (hRecords : after.records = (dht.next.created key owner 256).records)
      (hOpened : after.opened = (dht.next.created key owner 256).opened) : Extends dht after := by
    intro other hKnown
    have hOther : other ≠ key := by
      rintro rfl
      exact hKnown hFree
    rw [hRecords, hOpened]
    exact ⟨Function.update_of_ne hOther .., Function.update_of_ne hOther ..⟩
  unfold DHTShortArray.create
  rw [if_neg (by decide)]
  refine (createDhtRecord_settles _ 256 (some owner)).bind ?_ ?_
  · rintro ⟨key, keypair⟩ _ ⟨hFault, ⟨fresh, hHead, hOwner⟩, hFree, rfl⟩
    obtain rfl : keypair = owner := hOwner
    have hOffer : dht.offer? = some key := congrArg (Option.map Prod.fst) hHead
    have hFirst : Passed 1 dht (dht.next.created key keypair 256) := passed_one hFault rfl rfl
    refine (reach_settles _).bind ?_ ?_
    · rintro _ _ ⟨hSecret, rfl⟩
      have hRecord : (dht.next.created key keypair 256).next.records key = some ⟨keypair, 256, fun _ => none⟩ :=
        Function.update_self ..
      have hOpen : (dht.next.created key keypair 256).next.opened key = some (some keypair) :=
        Function.update_self ..
      have hSecond : Passed 2 dht (dht.next.created key keypair 256).next := hFirst.next hSecret rfl rfl
      refine (setDhtValue_settles _ hRecord hOpen (by decide : 0 < 256)).bind ?_ ?_
      · rintro _ _ ⟨hHead, -, rfl⟩
        exact ⟨key, _, rfl, hOffer, hFree, hSecond.next hHead rfl rfl, Function.update_idem .., rfl, rfl,
          record_holds_nil _⟩
      · rintro _ _ ⟨hHead, rfl⟩
        have hFits := hLaws.head_le ⟨255, []⟩ (by simp) (by simp) rfl
        exact ⟨fun hPasses => absurd (hSecond.fault?_eq_none hPasses (by decide)) (hHead hFits), rfl,
          hCreated hFree rfl rfl⟩
    · rintro _ _ ⟨hSecret, rfl⟩
      exact ⟨fun hPasses => absurd (hFirst.fault?_eq_none hPasses (by decide)) hSecret, rfl,
        hCreated hFree rfl rfl⟩
  · rintro _ _ ⟨hRefused, rfl⟩
    exact ⟨fun hPasses => hRefused (hPasses.fault?_eq_none (by decide)), rfl, fun _ _ => ⟨rfl, rfl⟩⟩

/-- At most the record of the key has been opened again. -/
def Reopened (key : RecordKey) (before after : Dht RecordKey KeyPair) : Prop :=
  after.records = before.records ∧ ∀ other, other ≠ key → after.opened other = before.opened other

omit [DecidableEq KeyPair] in
theorem DHTShortArray.open_settles (hLaws : codec.Laws) (hRecord : dht.records key = some record)
    (hHolds : record.Holds codec entries) (writer : Option KeyPair) :
    Settles (fun array after => array = ⟨key, writer, 255⟩ ∧ Passed 2 dht after ∧
        after.opened key = some writer ∧ Reopened key dht after)
      (fun _ after => ¬dht.Passes 2 ∧ after.failures = dht.failures + 1 ∧ Reopened key dht after)
      (DHTShortArray.open codec (codec.keyToString key) writer) dht := by
  unfold DHTShortArray.open
  rw [hLaws.key]
  refine (openDhtRecord_settles _ writer (by simp [hRecord])).bind ?_ ?_
  · rintro _ _ ⟨hOpen, rfl⟩
    have hFirst : Passed 1 dht (dht.next.withOpened key writer) := passed_one hOpen rfl rfl
    have hOther (other : RecordKey) (h : other ≠ key) :
        (dht.next.withOpened key writer).opened other = dht.opened other := Function.update_of_ne h ..
    have hWriter : (dht.next.withOpened key writer).opened key = some writer := Function.update_self ..
    have hRecord' : (dht.next.withOpened key writer).records key = some record := hRecord
    refine (readHeadRaw_settles hLaws hRecord' hHolds (by simp [hWriter])).bind ?_ ?_
    · rintro _ _ ⟨rfl, hRead, rfl⟩
      exact ⟨rfl, hFirst.next hRead rfl rfl, hWriter, rfl, hOther⟩
    · rintro _ _ ⟨hRead, rfl⟩
      exact ⟨fun hPasses => hRead (hFirst.fault?_eq_none hPasses (by decide)), rfl, rfl, hOther⟩
  · rintro _ _ ⟨hOpen, rfl⟩
    exact ⟨fun hPasses => hOpen (hPasses.fault?_eq_none (by decide)), rfl, rfl, fun _ _ => rfl⟩

omit [DecidableEq RecordKey] [DecidableEq KeyPair] in
theorem DHTShortArray.get_settles (hLaws : codec.Laws) (hRecord : dht.records key = some record)
    (hHolds : record.Holds codec entries) (hOpen : dht.opened key ≠ none) (writer : Option KeyPair)
    (index : Nat) :
    Settles (fun entry after => entry = entries[index]? ∧ after.failures = dht.failures ∧
        after.records = dht.records ∧ after.opened = dht.opened)
      (fun _ after => after.failures = dht.failures + 1 ∧ after.records = dht.records ∧
        after.opened = dht.opened)
      ((⟨key, writer, 255⟩ : DHTShortArray RecordKey KeyPair).get codec index) dht := by
  refine (readHeadRaw_settles hLaws hRecord hHolds hOpen).bind ?_ ?_
  · rintro _ _ ⟨rfl, -, rfl⟩
    by_cases hIndex : index < entries.length
    · have hSlot : (List.range entries.length)[index]? = some index := by simp [hIndex]
      have hSubkey : index + 1 < record.subkeys := by
        have hLength := hHolds.length_le
        rw [hHolds.subkeys]
        omega
      have hRecord' : dht.next.records key = some record := hRecord
      simp only [hSlot]
      refine (getDhtValue_settles "read slot" hRecord' hOpen hSubkey).mono ?_ ?_
      · rintro _ _ ⟨-, rfl, rfl⟩
        refine ⟨?_, rfl, rfl, rfl⟩
        rw [hHolds.slot index hIndex, List.getElem?_eq_getElem hIndex]
      · rintro _ _ ⟨-, rfl⟩
        exact ⟨rfl, rfl, rfl⟩
    · have hSlot : (List.range entries.length)[index]? = none := by simp [Nat.not_lt.mp hIndex]
      simp only [hSlot]
      exact ⟨(List.getElem?_eq_none (Nat.not_lt.mp hIndex)).symm, rfl, rfl, rfl⟩
  · rintro _ _ ⟨-, rfl⟩
    exact ⟨rfl, rfl, rfl⟩

end Operations

end Rekindle.Protocol
