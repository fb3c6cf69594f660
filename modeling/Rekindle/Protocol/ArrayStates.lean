import Rekindle.Library.Slots
import Rekindle.Protocol.ShortArray

/-! # What the record of a short array holds

The head lists the slots in use, in the order of the elements. Each operation is followed call by
call, so that what a cut-off operation leaves is known too.
-/
namespace Rekindle.Protocol
set_option autoImplicit false

open Fallible

section Records

variable {RecordKey KeyPair : Type} {codec : Codec RecordKey}

/-- The data slots of a record. -/
def Record.store (record : Record KeyPair) (slot : Nat) : Option Bytes := record.values (slot + 1)

/-- The record is a short array of the elements. -/
structure Record.Lists (codec : Codec RecordKey) (record : Record KeyPair) (stride : Nat) (slots : List Nat)
    (elements : List Bytes) : Prop where
  subkeys : record.subkeys = stride + 1
  head : record.values 0 = some (codec.headToVec ⟨stride, slots⟩)
  holds : Slots.Holds stride slots record.store elements

variable {record : Record KeyPair} {stride : Nat} {slots : List Nat} {elements : List Bytes}

theorem Record.store_write_slot (record : Record KeyPair) (slot : Nat) (data : Bytes) :
    (record.write (slot + 1) data).store = Function.update record.store slot (some data) := by
  funext other
  by_cases hSame : other = slot
  · rw [hSame, Function.update_self]
    exact record.write_values_self ..
  · rw [Function.update_of_ne hSame]
    exact record.write_values_of_ne data (by omega)

theorem Record.store_write_head (record : Record KeyPair) (data : Bytes) :
    (record.write 0 data).store = record.store := by
  funext slot
  exact record.write_values_of_ne data (Nat.succ_ne_zero slot)

theorem record_lists_nil (owner : KeyPair) (stride : Nat) :
    ((⟨owner, stride + 1, fun _ => none⟩ : Record KeyPair).write 0 (codec.headToVec ⟨stride, []⟩)).Lists codec
      stride [] [] where
  subkeys := rfl
  head := Record.write_values_self ..
  holds := Slots.holds_nil ..

theorem Record.Lists.write_free (h : record.Lists codec stride slots elements) {slot : Nat} (hFree : slot ∉ slots)
    (data : Bytes) : (record.write (slot + 1) data).Lists codec stride slots elements where
  subkeys := h.subkeys
  head := by rw [record.write_values_of_ne data (Nat.succ_ne_zero slot).symm, h.head]
  holds := by
    refine h.holds.frame fun other hOther => ?_
    rw [record.store_write_slot, Function.update_of_ne]
    rintro rfl
    exact hFree hOther

/-- A slot in use is overwritten. -/
theorem Record.Lists.write_slot (h : record.Lists codec stride slots elements) {i slot : Nat}
    (hSlot : slots[i]? = some slot) (data : Bytes) :
    (record.write (slot + 1) data).Lists codec stride slots (elements.set i data) where
  subkeys := h.subkeys
  head := by rw [record.write_values_of_ne data (Nat.succ_ne_zero slot).symm, h.head]
  holds := by
    rw [record.store_write_slot]
    exact h.holds.set hSlot data

/-- The head is rewritten, for elements that are in their slots already. -/
theorem Record.Lists.write_head (h : record.Lists codec stride slots elements) {slots' : List Nat}
    {elements' : List Bytes} (hHolds : Slots.Holds stride slots' record.store elements') :
    (record.write 0 (codec.headToVec ⟨stride, slots'⟩)).Lists codec stride slots' elements' where
  subkeys := h.subkeys
  head := record.write_values_self ..
  holds := by
    rw [record.store_write_head]
    exact hHolds

theorem findFreeSlot_spec {slots : List Nat} (hRoom : slots.length < stride) :
    findFreeSlot stride ⟨stride, slots⟩ < stride ∧ findFreeSlot stride ⟨stride, slots⟩ ∉ slots := by
  obtain ⟨free, hFree, hUnused⟩ := Slots.exists_free hRoom
  unfold findFreeSlot
  cases hFound : (List.range stride).find? (fun slot => !slots.contains slot) with
  | none =>
    rw [List.find?_eq_none] at hFound
    simpa [hUnused] using hFound free (List.mem_range.mpr hFree)
  | some slot =>
    have hSlot := List.find?_some hFound
    exact ⟨List.mem_range.mp (List.mem_of_find?_eq_some hFound), by simpa using hSlot⟩

end Records

/-! ## The operations -/

section Operations

variable {RecordKey KeyPair : Type} {codec : Codec RecordKey} {dht after : Dht RecordKey KeyPair}
  {array : DHTShortArray RecordKey KeyPair} {owner : KeyPair} {slots : List Nat} {elements : List Bytes}

/-- The record of the array is the owner's, is open for writing and lists the elements. -/
structure Shelved (codec : Codec RecordKey) (dht : Dht RecordKey KeyPair) (array : DHTShortArray RecordKey KeyPair)
    (owner : KeyPair) (slots : List Nat) (elements : List Bytes) : Prop where
  record : ∃ record, dht.records array.recordKey = some record ∧ record.owner = owner ∧
    record.Lists codec array.stride slots elements
  opened : dht.opened array.recordKey = some (some owner)

theorem Shelved.of_same (h : Shelved codec dht array owner slots elements) (hRecords : after.records = dht.records)
    (hOpened : after.opened = dht.opened) : Shelved codec after array owner slots elements where
  record := by
    rw [hRecords]
    exact h.record
  opened := by
    rw [hOpened]
    exact h.opened

theorem Shelved.next (h : Shelved codec dht array owner slots elements) :
    Shelved codec dht.next array owner slots elements := h.of_same rfl rfl

theorem Shelved.failed (h : Shelved codec dht array owner slots elements) :
    Shelved codec dht.next.failed array owner slots elements := h.of_same rfl rfl

theorem Shelved.length_le (h : Shelved codec dht array owner slots elements) : elements.length ≤ array.stride := by
  obtain ⟨_, -, -, hLists⟩ := h.record
  exact hLists.holds.length_le

theorem Shelved.length_eq (h : Shelved codec dht array owner slots elements) : slots.length = elements.length := by
  obtain ⟨_, -, -, hLists⟩ := h.record
  exact hLists.holds.length_eq

theorem Shelved.getElem?_eq_none_iff (h : Shelved codec dht array owner slots elements) (i : Nat) :
    slots[i]? = none ↔ elements[i]? = none := by
  rw [List.getElem?_eq_none_iff, List.getElem?_eq_none_iff, h.length_eq]

theorem Shelved.readHeadRaw_settles (hLaws : codec.Laws) (h : Shelved codec dht array owner slots elements) :
    Settles (fun head after => head = ⟨array.stride, slots⟩ ∧ Passed 1 dht after ∧
        Shelved codec after array owner slots elements)
      (fun _ after => ¬dht.Passes 1 ∧ after.failures = dht.failures + 1 ∧
        Shelved codec after array owner slots elements)
      (readHeadRaw codec array.recordKey) dht := by
  obtain ⟨record, hRecord, -, hLists⟩ := h.record
  have hSubkey : 0 < record.subkeys := hLists.subkeys ▸ Nat.succ_pos _
  refine (getDhtValue_settles "read head" hRecord (by simp [h.opened]) hSubkey).bind ?_ ?_
  · rintro _ _ ⟨hFault, rfl, rfl⟩
    simp only [hLists.head, hLaws.head]
    exact ⟨rfl, passed_one hFault rfl rfl, h.next⟩
  · rintro _ _ ⟨hFault, rfl⟩
    exact ⟨fun hPasses => hFault (hPasses.fault?_eq_none Nat.one_pos), rfl, h.failed⟩

/-- A slot of the array is read. -/
theorem Shelved.getDhtValue_settles (h : Shelved codec dht array owner slots elements) {i slot : Nat}
    (hSlot : slots[i]? = some slot) :
    Settles (fun value after => value = elements[i]? ∧ Passed 1 dht after ∧
        Shelved codec after array owner slots elements)
      (fun _ after => ¬dht.Passes 1 ∧ after.failures = dht.failures + 1 ∧
        Shelved codec after array owner slots elements)
      (getDhtValue "read slot" array.recordKey (slot + 1)) dht := by
  obtain ⟨record, hRecord, -, hLists⟩ := h.record
  have hSubkey : slot + 1 < record.subkeys := by
    rw [hLists.subkeys]
    exact Nat.succ_lt_succ (hLists.holds.lt slot (List.mem_of_getElem? hSlot))
  refine (Protocol.getDhtValue_settles "read slot" hRecord (by simp [h.opened]) hSubkey).mono ?_ ?_
  · rintro _ _ ⟨hFault, rfl, rfl⟩
    exact ⟨hLists.holds.getElem?_slot hSlot, passed_one hFault rfl rfl, h.next⟩
  · rintro _ _ ⟨hFault, rfl⟩
    exact ⟨fun hPasses => hFault (hPasses.fault?_eq_none Nat.one_pos), rfl, h.failed⟩

variable [DecidableEq RecordKey] [DecidableEq KeyPair]

/-- A write to the record of the array, for which it is known what the record lists then. -/
theorem Shelved.setDhtValue_settles (h : Shelved codec dht array owner slots elements) (label : String)
    {subkey : Nat} (hSubkey : subkey < array.stride + 1) {data : Bytes} {slots' : List Nat}
    {elements' : List Bytes}
    (hWritten : ∀ record : Record KeyPair, dht.records array.recordKey = some record →
      record.Lists codec array.stride slots elements →
      (record.write subkey data).Lists codec array.stride slots' elements') :
    Settles (fun _ after => Passed 1 dht after ∧ Shelved codec after array owner slots' elements' ∧
        ∀ record, after.records array.recordKey = some record → record.values subkey = some data)
      (fun _ after => (data.length ≤ maxValueSize → ¬dht.Passes 1) ∧ after.failures = dht.failures + 1 ∧
        Shelved codec after array owner slots elements)
      (setDhtValue label array.recordKey subkey data) dht := by
  obtain ⟨record, hRecord, rfl, hLists⟩ := h.record
  have hSubkey : subkey < record.subkeys := by rwa [hLists.subkeys]
  refine (Protocol.setDhtValue_settles label hRecord h.opened hSubkey).mono ?_ ?_
  · rintro _ _ ⟨hFault, -, rfl⟩
    refine ⟨passed_one hFault rfl rfl, ⟨⟨_, Function.update_self .., rfl, hWritten record hRecord hLists⟩, h.opened⟩,
      fun written hSome => ?_⟩
    have hSelf : (dht.next.withRecord array.recordKey (record.write subkey data)).records array.recordKey =
        some (record.write subkey data) := Function.update_self ..
    rw [← Option.some.inj (hSelf.symm.trans hSome)]
    exact record.write_values_self ..
  · rintro _ _ ⟨hFault, rfl⟩
    exact ⟨fun hSize hPasses => hFault hSize (hPasses.fault?_eq_none Nat.one_pos), rfl, h.failed⟩

/-- The data is written before the head: until the head is written the slot is not in use. -/
theorem Shelved.add_settles (hLaws : codec.Laws) (h : Shelved codec dht array owner slots elements) (data : Bytes) :
    Settles (fun index after => index = elements.length ∧ elements.length < array.stride ∧
        after.failures = dht.failures ∧ ∃ slot, Shelved codec after array owner (slots ++ [slot]) (elements ++ [data]))
      (fun e after => (e = .dhtError "short array is full" ∧ array.stride ≤ elements.length ∧
          after.failures = dht.failures ∨ after.failures = dht.failures + 1) ∧
        Shelved codec after array owner slots elements)
      (array.add codec data) dht := by
  refine (h.readHeadRaw_settles hLaws).bind ?_ fun _ _ ⟨_, hFailures, hStill⟩ => ⟨.inr hFailures, hStill⟩
  rintro _ read ⟨rfl, hRead, hShelved⟩
  by_cases hFull : array.stride ≤ slots.length
  · rw [if_pos hFull]
    exact settles_throw ⟨.inl ⟨rfl, h.length_eq ▸ hFull, hRead.failures⟩, hShelved⟩
  · rw [if_neg hFull]
    have hRoom : slots.length < array.stride := Nat.lt_of_not_le hFull
    obtain ⟨hSlot, hFree⟩ := findFreeSlot_spec hRoom
    let slot := findFreeSlot array.stride ⟨array.stride, slots⟩
    have hSlot' : slot + 1 < array.stride + 1 := Nat.succ_lt_succ hSlot
    have hUnused (record : Record KeyPair) (hLists : record.Lists codec array.stride slots elements) :
        (record.write (slot + 1) data).Lists codec array.stride slots elements := hLists.write_free hFree data
    refine (hShelved.setDhtValue_settles ("write slot " ++ toString slot) hSlot' fun record _ => hUnused record).bind
      ?_ ?_
    · rintro _ written ⟨hWritten, hStill, hStored⟩
      have hCalls : written.failures = dht.failures := (hRead.trans hWritten).failures
      have hPush (record : Record KeyPair) (hRecord : written.records array.recordKey = some record)
          (hLists : record.Lists codec array.stride slots elements) :
          (record.write 0 (codec.headToVec ⟨array.stride, slots ++ [slot]⟩)).Lists codec array.stride
            (slots ++ [slot]) (elements ++ [data]) :=
        hLists.write_head (hLists.holds.push hSlot hFree (hStored record hRecord))
      refine (hStill.setDhtValue_settles "write head" (Nat.succ_pos _) hPush).bind ?_ ?_
      · rintro _ after ⟨hHead, hPushed, -⟩
        exact settles_pure ⟨h.length_eq, h.length_eq ▸ hRoom, hHead.failures.trans hCalls, slot, hPushed⟩
      · rintro _ after ⟨-, hFailures, hStill⟩
        exact ⟨.inr (hFailures.trans (congrArg _ hCalls)), hStill⟩
    · rintro _ written ⟨-, hFailures, hStill⟩
      exact ⟨.inr (hFailures.trans (congrArg _ hRead.failures)), hStill⟩

/-- The data is cleared before the head is written: until then the slot stays in use. -/
theorem Shelved.remove_settles (hLaws : codec.Laws) (h : Shelved codec dht array owner slots elements)
    (index : Nat) :
    Settles (fun _ after => index < elements.length ∧ after.failures = dht.failures ∧
        Shelved codec after array owner (slots.eraseIdx index) (elements.eraseIdx index))
      (fun e after => elements.length ≤ index ∧ e = .dhtError (DHTShortArray.outOfBounds index elements.length) ∧
          after.failures = dht.failures ∧ Shelved codec after array owner slots elements ∨
        after.failures = dht.failures + 1 ∧
          (¬dht.Passes 2 ∧ Shelved codec after array owner slots elements ∨
            dht.Passes 2 ∧ Shelved codec after array owner slots (elements.set index [])))
      (array.remove codec index) dht := by
  refine (h.readHeadRaw_settles hLaws).bind ?_ ?_
  · rintro _ read ⟨rfl, hRead, hShelved⟩
    cases hSlot : slots[index]? with
    | none =>
      rw [h.getElem?_eq_none_iff, List.getElem?_eq_none_iff] at hSlot
      exact settles_throw (.inl ⟨hSlot, by rw [h.length_eq], hRead.failures, hShelved⟩)
    | some slot =>
      have hIndex : index < elements.length := h.length_eq ▸ (List.getElem?_eq_some_iff.mp hSlot).1
      have hClear (record : Record KeyPair) (hLists : record.Lists codec array.stride slots elements) :
          (record.write (slot + 1) []).Lists codec array.stride slots (elements.set index []) :=
        hLists.write_slot hSlot []
      refine (hShelved.setDhtValue_settles ("clear slot " ++ toString slot) ?_ fun record _ => hClear record).bind
        ?_ ?_
      · obtain ⟨_, -, -, hLists⟩ := h.record
        exact Nat.succ_lt_succ (hLists.holds.lt slot (List.mem_of_getElem? hSlot))
      · rintro _ cleared ⟨hCleared, hStill, -⟩
        have hCalls : Passed 2 dht cleared := hRead.trans hCleared
        have hErase (record : Record KeyPair)
            (hLists : record.Lists codec array.stride slots (elements.set index [])) :
            (record.write 0 (codec.headToVec ⟨array.stride, slots.eraseIdx index⟩)).Lists codec array.stride
              (slots.eraseIdx index) (elements.eraseIdx index) := by
          have hHolds := hLists.holds.eraseIdx index
          rw [List.eraseIdx_set_eq] at hHolds
          exact hLists.write_head hHolds
        refine (hStill.setDhtValue_settles "write head" (Nat.succ_pos _) fun record _ => hErase record).mono ?_ ?_
        · rintro _ after ⟨hHead, hErased, -⟩
          exact ⟨hIndex, hHead.failures.trans hCalls.failures, hErased⟩
        · rintro _ after ⟨-, hFailures, hStill⟩
          exact .inr ⟨hFailures.trans (congrArg _ hCalls.failures), .inr ⟨hCalls.passes, hStill⟩⟩
      · rintro _ after ⟨hRefused, hFailures, hStill⟩
        refine .inr ⟨hFailures.trans (congrArg _ hRead.failures), .inl ⟨fun hPasses => ?_, hStill⟩⟩
        exact hRefused (Nat.zero_le _) fun i hi => hRead.rest (n := 1) hPasses i hi
  · rintro _ after ⟨hRefused, hFailures, hStill⟩
    exact .inr ⟨hFailures, .inl ⟨fun hPasses => hRefused fun i hi => hPasses i (by omega), hStill⟩⟩

omit [DecidableEq RecordKey] [DecidableEq KeyPair] in
theorem Shelved.len_settles (hLaws : codec.Laws) (h : Shelved codec dht array owner slots elements) :
    Settles (fun length after => length = elements.length ∧ after.failures = dht.failures ∧
        Shelved codec after array owner slots elements)
      (fun _ after => ¬dht.Passes 1 ∧ after.failures = dht.failures + 1 ∧
        Shelved codec after array owner slots elements)
      (array.len codec) dht := by
  refine (h.readHeadRaw_settles hLaws).bind ?_ fun _ _ h => h
  rintro _ read ⟨rfl, hRead, hShelved⟩
  exact settles_pure ⟨h.length_eq, hRead.failures, hShelved⟩

omit [DecidableEq RecordKey] [DecidableEq KeyPair] in
theorem Shelved.get_settles (hLaws : codec.Laws) (h : Shelved codec dht array owner slots elements) (index : Nat) :
    Settles (fun entry after => entry = elements[index]? ∧ after.failures = dht.failures ∧
        Shelved codec after array owner slots elements)
      (fun _ after => ¬dht.Passes 2 ∧ after.failures = dht.failures + 1 ∧
        Shelved codec after array owner slots elements)
      (array.get codec index) dht := by
  refine (h.readHeadRaw_settles hLaws).bind ?_ ?_
  · rintro _ read ⟨rfl, hRead, hShelved⟩
    cases hSlot : slots[index]? with
    | none =>
      exact settles_pure ⟨((h.getElem?_eq_none_iff index).mp hSlot).symm, hRead.failures, hShelved⟩
    | some slot =>
      refine (hShelved.getDhtValue_settles hSlot).mono ?_ ?_
      · rintro _ after ⟨rfl, hPassed, hStill⟩
        exact ⟨rfl, (hRead.trans hPassed).failures, hStill⟩
      · rintro _ after ⟨hRefused, hFailures, hStill⟩
        refine ⟨fun hPasses => hRefused ?_, hFailures.trans (congrArg _ hRead.failures), hStill⟩
        exact fun i hi => hRead.rest (n := 1) hPasses i hi
  · rintro _ after ⟨hRefused, hFailures, hStill⟩
    exact ⟨fun hPasses => hRefused fun i hi => hPasses i (by omega), hFailures, hStill⟩

/-- The slots that are left when a prefix of them is done. -/
theorem drop_eq_cons {α : Type} {l rest : List α} {i : Nat} {a : α} (h : l.drop i = a :: rest) :
    l[i]? = some a ∧ l.drop (i + 1) = rest := by
  constructor
  · rw [← List.head?_drop, h, List.head?_cons]
  · rw [← List.tail_drop, h, List.tail_cons]

omit [DecidableEq RecordKey] [DecidableEq KeyPair] in
theorem Shelved.readSlots_settles (h : Shelved codec dht array owner slots elements) {rest : List Nat} {i : Nat}
    (hRest : slots.drop i = rest) :
    Settles (fun entries after => entries = elements.drop i ∧ after.failures = dht.failures ∧
        Shelved codec after array owner slots elements)
      (fun _ after => ¬dht.Passes rest.length ∧ after.failures = dht.failures + 1 ∧
        Shelved codec after array owner slots elements)
      (array.readSlots rest) dht := by
  induction rest generalizing i dht with
  | nil =>
    rw [List.drop_eq_nil_iff, h.length_eq] at hRest
    exact settles_pure ⟨(List.drop_eq_nil_of_le hRest).symm, rfl, h⟩
  | cons slot rest ih =>
    obtain ⟨hSlot, hMore⟩ := drop_eq_cons hRest
    refine (h.getDhtValue_settles hSlot).bind ?_ ?_
    · rintro _ read ⟨rfl, hRead, hShelved⟩
      refine (ih hShelved hMore).bind ?_ ?_
      · rintro _ after ⟨rfl, hFailures, hStill⟩
        refine settles_pure ⟨?_, hFailures.trans hRead.failures, hStill⟩
        have hIndex : i < elements.length := h.length_eq ▸ (List.getElem?_eq_some_iff.mp hSlot).1
        rw [List.getElem?_eq_getElem hIndex, Option.getD_some, List.drop_eq_getElem_cons hIndex]
      · rintro _ after ⟨hRefused, hFailures, hStill⟩
        refine ⟨fun hPasses => hRefused ?_, hFailures.trans (congrArg _ hRead.failures), hStill⟩
        exact fun j hj => hRead.rest (n := rest.length) (by rwa [Nat.add_comm]) j hj
    · rintro _ after ⟨hRefused, hFailures, hStill⟩
      refine ⟨fun hPasses => hRefused fun j hj => hPasses j ?_, hFailures, hStill⟩
      rw [List.length_cons]
      omega

omit [DecidableEq RecordKey] [DecidableEq KeyPair] in
theorem Shelved.getAll_settles (hLaws : codec.Laws) (h : Shelved codec dht array owner slots elements) :
    Settles (fun entries after => entries = elements ∧ after.failures = dht.failures ∧
        Shelved codec after array owner slots elements)
      (fun _ after => ¬dht.Passes (elements.length + 1) ∧ after.failures = dht.failures + 1 ∧
        Shelved codec after array owner slots elements)
      (array.getAll codec) dht := by
  refine (h.readHeadRaw_settles hLaws).bind ?_ ?_
  · rintro _ read ⟨rfl, hRead, hShelved⟩
    refine (hShelved.readSlots_settles List.drop_zero).mono ?_ ?_
    · rintro _ after ⟨rfl, hFailures, hStill⟩
      exact ⟨List.drop_zero, hFailures.trans hRead.failures, hStill⟩
    · rintro _ after ⟨hRefused, hFailures, hStill⟩
      refine ⟨fun hPasses => hRefused ?_, hFailures.trans (congrArg _ hRead.failures), hStill⟩
      rw [h.length_eq]
      exact hRead.rest (by rwa [Nat.add_comm])
  · rintro _ after ⟨hRefused, hFailures, hStill⟩
    exact ⟨fun hPasses => hRefused fun i hi => hPasses i (by omega), hFailures, hStill⟩

/-- The elements, the first `count` of them cleared. -/
def emptied (count : Nat) (elements : List Bytes) : List Bytes :=
  elements.mapIdx fun i element => if i < count then [] else element

theorem getElem?_emptied (count : Nat) (elements : List Bytes) (i : Nat) :
    (emptied count elements)[i]? = elements[i]?.map fun element => if i < count then [] else element :=
  List.getElem?_mapIdx ..

theorem emptied_zero (elements : List Bytes) : emptied 0 elements = elements := by
  apply List.ext_getElem?
  intro i
  simp [getElem?_emptied]

theorem emptied_set (elements : List Bytes) (i : Nat) :
    (emptied i elements).set i [] = emptied (i + 1) elements := by
  apply List.ext_getElem?
  intro j
  rw [List.getElem?_set, getElem?_emptied]
  by_cases hSame : i = j
  · subst hSame
    by_cases hIndex : i < elements.length <;> simp [emptied, hIndex]
  · rw [if_neg hSame, getElem?_emptied]
    have hLt : j < i + 1 ↔ j < i := by omega
    simp only [hLt]

theorem emptied_eq_iff (count : Nat) (elements : List Bytes) :
    emptied count elements = elements ↔ ∀ i element, elements[i]? = some element → i < count → element = [] := by
  constructor
  · intro hSame i element hElement hIndex
    have hCleared := getElem?_emptied count elements i
    rw [hSame, hElement, Option.map_some, if_pos hIndex] at hCleared
    exact Option.some.inj hCleared
  · intro hEmpty
    apply List.ext_getElem?
    intro i
    rw [getElem?_emptied]
    cases hElement : elements[i]? with
    | none => rfl
    | some element =>
      by_cases hIndex : i < count
      · rw [Option.map_some, if_pos hIndex, hEmpty i element hElement hIndex]
      · rw [Option.map_some, if_neg hIndex]

theorem Shelved.clearSlots_settles {rest : List Nat} {i : Nat}
    (h : Shelved codec dht array owner slots (emptied i elements)) (hRest : slots.drop i = rest) :
    Settles (fun _ after => Passed rest.length dht after ∧
        Shelved codec after array owner slots (emptied (i + rest.length) elements))
      (fun _ after => after.failures = dht.failures + 1 ∧ ∃ done < rest.length, dht.Passes done ∧
        ¬dht.Passes (done + 1) ∧ Shelved codec after array owner slots (emptied (i + done) elements))
      (array.clearSlots rest) dht := by
  induction rest generalizing i dht with
  | nil => exact settles_pure ⟨⟨fun _ hi => absurd hi (Nat.not_lt_zero _), rfl, rfl⟩, h⟩
  | cons slot rest ih =>
    obtain ⟨hSlot, hMore⟩ := drop_eq_cons hRest
    have hClear (record : Record KeyPair) (hLists : record.Lists codec array.stride slots (emptied i elements)) :
        (record.write (slot + 1) []).Lists codec array.stride slots (emptied (i + 1) elements) := by
      rw [← emptied_set]
      exact hLists.write_slot hSlot []
    have hBound : slot + 1 < array.stride + 1 := by
      obtain ⟨_, -, -, hLists⟩ := h.record
      exact Nat.succ_lt_succ (hLists.holds.lt slot (List.mem_of_getElem? hSlot))
    refine (h.setDhtValue_settles ("clear slot " ++ toString slot) hBound fun record _ => hClear record).bind ?_ ?_
    · rintro _ cleared ⟨hCleared, hStill, -⟩
      refine (ih hStill hMore).mono ?_ ?_
      · rintro _ after ⟨hPassed, hEmptied⟩
        rw [List.length_cons, Nat.add_comm rest.length, ← Nat.add_assoc]
        exact ⟨hCleared.trans hPassed, hEmptied⟩
      · rintro _ after ⟨hFailures, done, hDone, hPasses, hRefused, hEmptied⟩
        refine ⟨hFailures.trans (congrArg _ hCleared.failures), done + 1, Nat.succ_lt_succ hDone, ?_, ?_, ?_⟩
        · rw [Nat.add_comm]
          exact hCleared.extend hPasses
        · exact fun hMore => hRefused (hCleared.rest (by rwa [Nat.add_comm]))
        · rwa [Nat.add_comm done, ← Nat.add_assoc]
    · rintro _ after ⟨hRefused, hFailures, hStill⟩
      exact ⟨hFailures, 0, Nat.succ_pos _, fun _ hi => absurd hi (Nat.not_lt_zero _), hRefused (Nat.zero_le _), hStill⟩

/-- The slots are cleared one after the other, and the head is written last. -/
theorem Shelved.clear_settles (hLaws : codec.Laws) (h : Shelved codec dht array owner slots elements) :
    Settles (fun _ after => after.failures = dht.failures ∧ Shelved codec after array owner [] [])
      (fun _ after => after.failures = dht.failures + 1 ∧ ∃ done,
        (∀ i < elements.length, i < done ↔ dht.Passes (i + 2)) ∧
        Shelved codec after array owner slots (emptied done elements))
      (array.clear codec) dht := by
  refine (h.readHeadRaw_settles hLaws).bind ?_ ?_
  · rintro _ read ⟨rfl, hRead, hShelved⟩
    rw [← emptied_zero elements] at hShelved
    refine (hShelved.clearSlots_settles List.drop_zero).bind ?_ ?_
    · rintro _ cleared ⟨hCleared, hStill⟩
      have hCalls : Passed (1 + slots.length) dht cleared := hRead.trans hCleared
      have hReset (record : Record KeyPair)
          (hLists : record.Lists codec array.stride slots (emptied (0 + slots.length) elements)) :
          (record.write 0 (codec.headToVec ⟨array.stride, []⟩)).Lists codec array.stride [] [] :=
        hLists.write_head (Slots.holds_nil ..)
      refine (hStill.setDhtValue_settles "write head" (Nat.succ_pos _) fun record _ => hReset record).mono ?_ ?_
      · rintro _ after ⟨hHead, hEmpty, -⟩
        exact ⟨hHead.failures.trans hCalls.failures, hEmpty⟩
      · rintro _ after ⟨-, hFailures, hStill⟩
        refine ⟨hFailures.trans (congrArg _ hCalls.failures), 0 + slots.length, fun i hi => ?_, hStill⟩
        rw [Nat.zero_add, h.length_eq]
        exact iff_of_true hi fun j hj => hCalls.passes j (by rw [h.length_eq]; omega)
    · rintro _ after ⟨hFailures, done, hDone, hPasses, hRefused, hStill⟩
      refine ⟨hFailures.trans (congrArg _ hRead.failures), 0 + done, fun i hi => ?_, hStill⟩
      rw [Nat.zero_add]
      have hBefore : dht.Passes (1 + done) := hRead.extend hPasses
      constructor
      · intro hIndex j hj
        exact hBefore j (by omega)
      · intro hLater
        by_contra hIndex
        exact hRefused (hRead.rest fun j hj => hLater j (by omega))
  · rintro _ after ⟨hRefused, hFailures, hStill⟩
    refine ⟨hFailures, 0, fun i _ => ?_, by rwa [emptied_zero]⟩
    exact iff_of_false (Nat.not_lt_zero i) fun hPasses => hRefused fun j hj => hPasses j (by omega)

theorem DHTShortArray.create_shelved_settles (capacity : Nat) (owner : Option KeyPair) :
    Settles (fun (created : DHTShortArray RecordKey KeyPair × KeyPair) after => created.1.stride = capacity ∧
        after.failures = dht.failures ∧ Shelved codec after created.1 created.2 [] [])
      (fun e after => capacity = 65535 ∧ e = .dhtError "capacity overflow (max 65534)" ∨
        after.failures = dht.failures + 1)
      (DHTShortArray.create codec capacity owner) dht := by
  unfold DHTShortArray.create
  by_cases hCapacity : capacity = 65535
  · rw [if_pos hCapacity]
    exact settles_throw (.inl ⟨hCapacity, rfl⟩)
  · rw [if_neg hCapacity]
    refine (createDhtRecord_settles _ (capacity + 1) owner).bind ?_ ?_
    · rintro ⟨key, keypair⟩ _ ⟨hFault, -, -, rfl⟩
      refine (reach_settles _).bind ?_ ?_
      · rintro _ _ ⟨hSecret, rfl⟩
        have hRecord : (dht.next.created key keypair (capacity + 1)).next.records key =
            some ⟨keypair, capacity + 1, fun _ => none⟩ := Function.update_self ..
        have hOpen : (dht.next.created key keypair (capacity + 1)).next.opened key = some (some keypair) :=
          Function.update_self ..
        refine (Protocol.setDhtValue_settles _ hRecord hOpen (Nat.succ_pos capacity)).bind ?_ ?_
        · rintro _ _ ⟨-, -, rfl⟩
          exact settles_pure ⟨rfl, rfl, ⟨_, Function.update_self .., rfl, record_lists_nil keypair capacity⟩, hOpen⟩
        · rintro _ _ ⟨-, rfl⟩
          exact .inr rfl
      · rintro _ _ ⟨-, rfl⟩
        exact .inr rfl
    · rintro _ _ ⟨-, rfl⟩
      exact .inr rfl

omit [DecidableEq KeyPair] in
/-- The owner opens the array again. -/
theorem Shelved.open_settles (hLaws : codec.Laws) (h : Shelved codec dht array owner slots elements)
    {closed : Dht RecordKey KeyPair} (hRecords : closed.records = dht.records) :
    Settles (fun opened after => opened = ⟨array.recordKey, some owner, array.stride⟩ ∧
        after.failures = closed.failures ∧ Shelved codec after opened owner slots elements)
      (fun _ after => after.failures = closed.failures + 1)
      (DHTShortArray.open codec (codec.keyToString array.recordKey) (some owner)) closed := by
  obtain ⟨record, hRecord, hOwner, hLists⟩ := h.record
  have hRecord : closed.records array.recordKey = some record := by rwa [hRecords]
  unfold DHTShortArray.open
  rw [hLaws.key]
  refine (openDhtRecord_settles _ (some owner) (by simp [hRecord])).bind ?_ ?_
  · rintro _ _ ⟨hOpen, rfl⟩
    have hShelved : Shelved codec (closed.next.withOpened array.recordKey (some owner))
        ⟨array.recordKey, some owner, array.stride⟩ owner slots elements :=
      ⟨⟨record, hRecord, hOwner, hLists⟩, Function.update_self ..⟩
    refine (hShelved.readHeadRaw_settles hLaws).bind ?_ fun _ _ h => h.2.1
    rintro _ after ⟨rfl, hRead, hStill⟩
    exact settles_pure ⟨rfl, hRead.failures, hStill⟩
  · rintro _ _ ⟨-, rfl⟩
    rfl

end Operations

end Rekindle.Protocol
