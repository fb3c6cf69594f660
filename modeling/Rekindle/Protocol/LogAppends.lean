import Rekindle.Protocol.LogStates

/-! # Appending to a log

An append writes the entry, the head of its segment and the spine, in this order. What each prefix
of the writes leaves depends on whether the append opens a segment.
-/
namespace Rekindle.Protocol
set_option autoImplicit false

open Fallible Pages

variable {RecordKey KeyPair : Type} {codec : Codec RecordKey} {log : DHTLog RecordKey KeyPair}
  {dht : Dht RecordKey KeyPair} {owner : KeyPair} {keys : List RecordKey} {count : Nat} {values : List Bytes}

theorem Stored.keys_eq_nil_iff {records : RecordKey → Option (Record KeyPair)} {spineKey : RecordKey}
    (h : Stored codec records spineKey owner keys count values) : keys = [] ↔ count = 0 := by
  have hEnough := h.spans.enough
  have hNeeded := h.spans.needed
  rw [← List.length_eq_zero_iff]
  omega

theorem needsNewSegment_spineOf {records : RecordKey → Option (Record KeyPair)} {spineKey : RecordKey}
    (h : Stored codec records spineKey owner keys count values) :
    (DHTLog.needsNewSegment (spineOf codec keys count) : DhtM RecordKey KeyPair Bool) =
      pure (decide (count % 255 = 0)) := by
  have hCount := h.toNat_count
  unfold DHTLog.needsNewSegment
  by_cases hNone : count = 0
  · rw [if_pos (by simp [spineOf, h.keys_eq_nil_iff.mpr hNone]), hNone]
    rfl
  · have hKeys : (spineOf codec keys count).segments ≠ [] := by
      simpa [spineOf] using mt h.keys_eq_nil_iff.mp hNone
    have hTotal : (spineOf codec keys count).totalCount ≠ 0 := by
      intro hZero
      exact hNone (hCount.symm.trans (congrArg UInt64.toNat hZero))
    rw [if_neg hKeys, if_neg hTotal, spineOf_segmentCapacity, if_neg (by decide)]
    simp only [spineOf, hCount]

theorem spineOf_getLast? {last : Nat} (hLast : keys.length = last + 1) (hIndex : last < keys.length)
    (count : Nat) :
    (spineOf codec keys count).segments.getLast? = some (codec.keyToString keys[last]) := by
  simp [spineOf, List.getLast?_eq_getElem?, hLast]

/-- The spine after one more entry. -/
theorem spineOf_succ (keys : List RecordKey) (count : Nat) :
    { spineOf codec keys count with totalCount := (spineOf codec keys count).totalCount + 1 } =
      spineOf codec keys (count + 1) := by
  simp [spineOf]

theorem spineOf_opened (keys : List RecordKey) (key : RecordKey) (count : Nat) :
    ⟨(spineOf codec keys count).totalCount + 1, 255,
      (spineOf codec keys count).segments ++ [codec.keyToString key]⟩ =
      spineOf codec (keys ++ [key]) (count + 1) := by
  simp [spineOf]

/-- Full segments and a new one with the next value. -/
theorem Segments.push {records : RecordKey → Option (Record KeyPair)} {data : Bytes}
    (h : Segments codec records owner keys values) (hFull : values.length = 255 * keys.length)
    {key : RecordKey} {record : Record KeyPair} (hRecord : records key = some record)
    (hOwner : record.owner = owner) (hHolds : record.Holds codec [data]) :
    Segments codec records owner (keys ++ [key]) (values ++ [data]) := by
  intro i hi
  rw [List.length_append, List.length_singleton] at hi
  by_cases hNew : i = keys.length
  · subst hNew
    rw [List.getElem_concat_length rfl, page_append_of_room (by omega) (by omega), page_eq_nil (by omega)]
    exact ⟨record, hRecord, hOwner, hHolds⟩
  · have hOld : i < keys.length := by omega
    rw [List.getElem_append_left hOld, page_append_of_full (by omega)]
    exact h i hOld

variable [DecidableEq RecordKey] [DecidableEq KeyPair]

omit [DecidableEq KeyPair] in
/-- The spine is written over segments that already hold the values. -/
theorem Stored.write_spine {records : RecordKey → Option (Record KeyPair)} {spineKey : RecordKey}
    {record : Record KeyPair} (hRecord : records spineKey = some record) (hOwner : record.owner = owner)
    (hSubkeys : record.subkeys = 1) (hSegments : Segments codec records owner keys values)
    (hSpans : Spans 255 keys.length count) (hDistinct : (spineKey :: keys).Nodup)
    (hLaws : codec.Laws) (hFits : (codec.spineToVec (spineOf codec keys count)).length ≤ maxValueSize) :
    Stored codec (Function.update records spineKey
      (some (record.write 0 (codec.spineToVec (spineOf codec keys count))))) spineKey owner keys count values where
  spine := ⟨_, Function.update_self .., hOwner, hSubkeys, Record.write_values_self ..⟩
  segments := by
    refine hSegments.frame fun key hKey => Function.update_of_ne ?_ ..
    rintro rfl
    exact (List.nodup_cons.mp hDistinct).1 hKey
  spans := hSpans
  distinct := hDistinct
  keys_le := by
    have hNamed := hLaws.segments_le (spineOf codec keys count)
    rw [spineOf, List.length_map] at hNamed
    exact hNamed.trans hFits

/-- An append into a segment with room. The entry and the head may be written and the spine not. -/
theorem append_within_settles (hLaws : codec.Laws) (hWriter : log.ownerKeypair = some owner)
    (hStored : Stored codec dht.records log.spineKey owner keys count values)
    (hOpen : dht.opened log.spineKey = some (some owner)) (hPart : count % 255 ≠ 0) {last : Nat}
    (hLast : keys.length = last + 1) (hStarted : 255 * last ≤ values.length)
    (hRoom : values.length < 255 * (last + 1)) (data : Bytes) :
    Settles (fun pos after => pos = UInt64.ofNat count ∧ after.failures = dht.failures ∧
        after.opened log.spineKey = dht.opened log.spineKey ∧
        Stored codec after.records log.spineKey owner keys (count + 1) (values ++ [data]))
      (fun _ after => after.failures = dht.failures + 1 ∧
        after.opened log.spineKey = dht.opened log.spineKey ∧
        ((data.length ≤ maxValueSize → ¬dht.Passes 6) ∧
            Stored codec after.records log.spineKey owner keys count values ∨
          dht.Passes 6 ∧ data.length ≤ maxValueSize ∧
            ((codec.spineToVec (spineOf codec keys (count + 1))).length ≤ maxValueSize → ¬dht.Passes 7) ∧
            Stored codec after.records log.spineKey owner keys count (values ++ [data])))
      (log.append codec data) dht := by
  unfold DHTLog.append
  rw [hWriter]
  refine (readSpine_settles hLaws hStored (by simp [hOpen])).bind ?_ ?_
  · rintro _ _ ⟨rfl, hRead, rfl⟩
    rw [needsNewSegment_spineOf hStored]
    have hIndex : last < keys.length := by omega
    simp only [pure_bind, hPart, decide_false, Bool.false_eq_true, if_false, spineOf_getLast? hLast hIndex, orThrow,
      Option.elim_some, ofExcept_ok_bind]
    have hFirst : Passed 1 dht dht.next := passed_one hRead rfl rfl
    have hMem : keys[last] ∈ keys := List.getElem_mem _
    have hSpineNe := hStored.spineKey_ne hMem
    have hPage := page_append_of_room hStarted hRoom data
    obtain ⟨record, hRecord, rfl, hHolds⟩ := hStored.segments last (by omega)
    have hRecord' : dht.next.records keys[last] = some record := hRecord
    refine (DHTShortArray.open_settles hLaws hRecord' hHolds (some record.owner)).bind ?_ ?_
    · rintro _ opened ⟨rfl, hPassed, hOpened, hRecords, hOther⟩
      have hThird : Passed 3 dht opened := hFirst.trans hPassed
      have hShort : (page 255 last values).length < 255 := by
        rw [length_page]
        omega
      have hRecord'' : opened.records keys[last] = some record := by rwa [hRecords]
      refine (DHTShortArray.add_settles hLaws hRecord'' hHolds hOpened hShort (some record.owner) data).bind ?_ ?_
      · rintro _ added ⟨hPassed', hSize, hSame, record', hAdded, hOwner, hHolds'⟩
        have hSixth : Passed 6 dht added := hThird.trans hPassed'
        have hSpineOpen : added.opened log.spineKey = dht.opened log.spineKey := by
          rw [hSame, hOther _ hSpineNe, Dht.next]
        have hHeld : Stored codec added.records log.spineKey record.owner keys count (values ++ [data]) := by
          rw [hAdded, hRecords]
          refine hStored.rewrite hLast hOwner (hPage ▸ hHolds') fun i hi => page_append_of_full ?_ _
          omega
        obtain ⟨spine, hSpine, hSpineOwner, hSubkeys, -⟩ := hHeld.spine
        have hWritable : added.opened log.spineKey = some (some spine.owner) := by
          rw [hSpineOpen, hOpen, hSpineOwner]
        rw [spineOf_succ]
        refine (setDhtValue_settles _ hSpine hWritable (by omega)).bind ?_ ?_
        · rintro _ _ ⟨-, hFits, rfl⟩
          obtain ⟨-, -, -, -, hSpans⟩ := hStored.spans.of_room hPart
          exact settles_pure ⟨rfl, hSixth.failures, hSpineOpen,
            Stored.write_spine hSpine hSpineOwner hSubkeys hHeld.segments hSpans hStored.distinct hLaws hFits⟩
        · rintro _ _ ⟨hRefused, rfl⟩
          exact ⟨congrArg _ hSixth.failures, hSpineOpen, .inr ⟨hSixth.passes, hSize, fun hFits hPasses =>
            hRefused hFits (hSixth.fault?_eq_none hPasses (by decide)), hHeld⟩⟩
      · rintro _ added ⟨hRefused, hFailures, hSame, record', hAdded, hOwner, hHolds'⟩
        refine ⟨hFailures.trans (congrArg _ hThird.failures), ?_, .inl ⟨fun hSize hPasses => ?_, ?_⟩⟩
        · rw [hSame, hOther _ hSpineNe, Dht.next]
        · exact hRefused hSize (hThird.rest (n := 3) hPasses)
        · rw [hAdded, hRecords]
          exact hStored.rewrite hLast hOwner hHolds' fun _ _ => rfl
    · rintro _ opened ⟨hRefused, hFailures, hRecords, hOther⟩
      refine ⟨hFailures, hOther _ hSpineNe, .inl ⟨fun _ hPasses => ?_, ?_⟩⟩
      · exact hRefused fun i hi => hFirst.rest (n := 5) hPasses i (by omega)
      · rw [hRecords]
        exact hStored
  · rintro _ _ ⟨hRead, rfl⟩
    exact ⟨rfl, rfl, .inl ⟨fun _ hPasses => hRead (hPasses.fault?_eq_none (by decide)), hStored⟩⟩

/-- An append that opens a segment. Until the spine is written nothing names the new record. -/
theorem append_opening_settles (hLaws : codec.Laws) (hWriter : log.ownerKeypair = some owner)
    (hStored : Stored codec dht.records log.spineKey owner keys values.length values)
    (hOpen : dht.opened log.spineKey = some (some owner)) (hFull : values.length % 255 = 0) (data : Bytes) :
    Settles (fun pos after => pos = UInt64.ofNat values.length ∧ after.failures = dht.failures ∧
        after.opened log.spineKey = dht.opened log.spineKey ∧
        ∃ key, dht.offer? = some key ∧ dht.records key = none ∧
          Stored codec after.records log.spineKey owner (keys ++ [key]) (values.length + 1) (values ++ [data]))
      (fun _ after => (data.length ≤ maxValueSize → dht.Passes 8 →
          (∀ key, dht.offer? = some key →
            (codec.spineToVec (spineOf codec (keys ++ [key]) (values.length + 1))).length ≤ maxValueSize) →
          dht.Exhausted) ∧
        after.failures = dht.failures + 1 ∧ after.opened log.spineKey = dht.opened log.spineKey ∧
        Stored codec after.records log.spineKey owner keys values.length values)
      (log.append codec data) dht := by
  obtain ⟨hLength, hSpans⟩ := hStored.spans.of_full hFull
  have hKept {after : Dht RecordKey KeyPair} (hExtends : Extends dht after) :
      after.opened log.spineKey = dht.opened log.spineKey ∧
        Stored codec after.records log.spineKey owner keys values.length values :=
    ⟨(hExtends _ (hStored.known List.mem_cons_self)).2, hStored.frame fun key hKey => (hExtends key hKey).1⟩
  unfold DHTLog.append
  rw [hWriter]
  refine (readSpine_settles hLaws hStored (by simp [hOpen])).bind ?_ ?_
  · rintro _ _ ⟨rfl, hRead, rfl⟩
    rw [needsNewSegment_spineOf hStored]
    simp only [pure_bind, hFull, decide_true, if_true, spineOf_segmentCapacity]
    have hFirst : Passed 1 dht dht.next := passed_one hRead rfl rfl
    refine (DHTShortArray.create_settles hLaws owner).bind ?_ ?_
    · rintro ⟨_, keypair⟩ created ⟨key, record, rfl, hOffer, hFree, hPassed, hRecords, hOpened, rfl, hHolds⟩
      have hOffer : dht.offer? = some key := hOffer
      have hFree : dht.records key = none := hFree
      have hFourth : Passed 4 dht created := hFirst.trans hPassed
      have hRecord : created.records key = some record := by rw [hRecords, Function.update_self]
      have hNewOpen : created.opened key = some (some record.owner) := by rw [hOpened, Function.update_self]
      have hExtends (added : Dht RecordKey KeyPair) (hSame : added.opened = created.opened)
          (record' : Record KeyPair) (hAdded : added.records = Function.update created.records key (some record')) :
          Extends dht added := by
        intro other hKnown
        have hOther : other ≠ key := by
          rintro rfl
          exact hKnown hFree
        rw [hAdded, hSame, hRecords, hOpened, Function.update_of_ne hOther, Function.update_of_ne hOther,
          Function.update_of_ne hOther]
        exact ⟨rfl, rfl⟩
      refine (DHTShortArray.add_settles hLaws hRecord hHolds hNewOpen (by simp) _ data).bind ?_ ?_
      · rintro _ added ⟨hPassed', -, hSame, record', hAdded, hOwner, hHolds'⟩
        obtain ⟨hSpineOpen, hHeld⟩ := hKept (hExtends added hSame record' hAdded)
        have hSeventh : Passed 7 dht added := hFourth.trans hPassed'
        have hRecord' : added.records key = some record' := by rw [hAdded, Function.update_self]
        obtain ⟨spine, hSpine, hSpineOwner, hSubkeys, -⟩ := hHeld.spine
        have hWritable : added.opened log.spineKey = some (some spine.owner) := by
          rw [hSpineOpen, hOpen, hSpineOwner]
        rw [spineOf_opened]
        refine (setDhtValue_settles _ hSpine hWritable (by omega)).bind ?_ ?_
        · rintro _ _ ⟨-, hFits, rfl⟩
          refine settles_pure ⟨rfl, hPassed'.failures.trans hPassed.failures, hSpineOpen, key, hOffer, hFree, ?_⟩
          refine Stored.write_spine hSpine hSpineOwner hSubkeys
            (hHeld.segments.push hLength hRecord' hOwner hHolds') (by simpa using hSpans) ?_ hLaws hFits
          rw [← List.cons_append, List.nodup_append]
          refine ⟨hStored.distinct, List.nodup_singleton _, fun other hOther _ hNew => ?_⟩
          rw [List.mem_singleton.mp hNew]
          rintro rfl
          exact hStored.known hOther hFree
        · rintro _ _ ⟨hRefused, rfl⟩
          refine ⟨fun _ hPasses hFits => ?_, congrArg _ (hPassed'.failures.trans hPassed.failures), hSpineOpen, hHeld⟩
          exact absurd (hSeventh.fault?_eq_none hPasses (by decide)) (hRefused (hFits key hOffer))
      · rintro _ added ⟨hRefused, hFailures, hSame, record', hAdded, -, -⟩
        refine ⟨fun hSize hPasses _ => ?_, hFailures.trans (congrArg _ hPassed.failures),
          hKept (hExtends added hSame record' hAdded)⟩
        exact absurd (fun i hi => hFourth.rest (n := 4) hPasses i (by omega)) (hRefused hSize)
    · rintro _ created ⟨hRefused, hFailures, hExtends⟩
      refine ⟨fun _ hPasses _ => ?_, hFailures, hKept hExtends⟩
      exact hRefused fun i hi => hFirst.rest (n := 7) hPasses i (by omega)
  · rintro _ _ ⟨hRead, rfl⟩
    exact ⟨fun _ hPasses _ => absurd (hPasses.fault?_eq_none (by decide)) hRead, rfl, rfl, hStored⟩

/-- An append with the key pair of somebody else returns nothing: the spine is not its to write. -/
theorem append_foreign_settles (hLaws : codec.Laws) {writer : KeyPair} (hWriter : log.ownerKeypair = some writer)
    (hStored : Stored codec dht.records log.spineKey owner [] 0 [])
    (hOpen : dht.opened log.spineKey = some (some writer)) (hForeign : writer ≠ owner) (data : Bytes) :
    Settles (fun _ _ => False) (fun _ _ => True) (log.append codec data) dht := by
  unfold DHTLog.append
  rw [hWriter]
  refine (readSpine_settles hLaws hStored (by simp [hOpen])).bind ?_ fun _ _ _ => trivial
  rintro _ _ ⟨rfl, -, rfl⟩
  rw [needsNewSegment_spineOf hStored]
  simp only [pure_bind, Nat.zero_mod, decide_true, if_true, spineOf_segmentCapacity]
  refine (DHTShortArray.create_settles hLaws writer).bind ?_ fun _ _ _ => trivial
  rintro ⟨_, keypair⟩ created ⟨key, record, rfl, -, hFree, -, hRecords, hOpened, rfl, hHolds⟩
  have hFree : dht.records key = none := hFree
  have hRecord : created.records key = some record := by rw [hRecords, Function.update_self]
  have hNewOpen : created.opened key = some (some record.owner) := by rw [hOpened, Function.update_self]
  refine (DHTShortArray.add_settles hLaws hRecord hHolds hNewOpen (by simp) _ data).bind ?_ fun _ _ _ => trivial
  rintro _ added ⟨-, -, hSame, record', hAdded, -, -⟩
  have hOther : log.spineKey ≠ key := by
    rintro rfl
    exact hStored.known List.mem_cons_self hFree
  obtain ⟨spine, hSpine, rfl, -⟩ := hStored.spine
  have hSpine' : added.records log.spineKey = some spine := by
    rw [hAdded, hRecords, Function.update_of_ne hOther, Function.update_of_ne hOther]
    exact hSpine
  have hOpen' : added.opened log.spineKey = some (some record.owner) := by
    rw [hSame, hOpened, Function.update_of_ne hOther]
    exact hOpen
  exact (setDhtValue_foreign_settles _ hSpine' hOpen' hForeign).bind (fun _ _ h => h.elim) fun _ _ _ => trivial

/-- An append into a segment that is full, though the spine counts fewer entries, fails by itself. -/
theorem append_full_settles (hLaws : codec.Laws) (hWriter : log.ownerKeypair = some owner)
    (hStored : Stored codec dht.records log.spineKey owner keys count values)
    (hOpen : dht.opened log.spineKey = some (some owner)) (hPart : count % 255 ≠ 0) {last : Nat}
    (hLast : keys.length = last + 1) (hFull : 255 * (last + 1) ≤ values.length)
    (hPasses : dht.Passes 4) (data : Bytes) :
    Settles (fun _ _ => False) (fun _ after => after.failures = dht.failures) (log.append codec data) dht := by
  unfold DHTLog.append
  rw [hWriter]
  refine (readSpine_settles hLaws hStored (by simp [hOpen])).bind ?_ ?_
  · rintro _ _ ⟨rfl, hRead, rfl⟩
    rw [needsNewSegment_spineOf hStored]
    have hIndex : last < keys.length := by omega
    simp only [pure_bind, hPart, decide_false, Bool.false_eq_true, if_false, spineOf_getLast? hLast hIndex, orThrow,
      Option.elim_some, ofExcept_ok_bind]
    have hFirst : Passed 1 dht dht.next := passed_one hRead rfl rfl
    obtain ⟨record, hRecord, rfl, hHolds⟩ := hStored.segments last (by omega)
    have hRecord' : dht.next.records keys[last] = some record := hRecord
    refine (DHTShortArray.open_settles hLaws hRecord' hHolds (some record.owner)).bind ?_ ?_
    · rintro _ opened ⟨rfl, hPassed, hOpened, hRecords, -⟩
      have hThird : Passed 3 dht opened := hFirst.trans hPassed
      have hLong : 255 ≤ (page 255 last values).length := by
        rw [length_page]
        omega
      have hRecord'' : opened.records keys[last] = some record := by rwa [hRecords]
      refine (DHTShortArray.add_full_settles hLaws hRecord'' hHolds (by simp [hOpened]) hLong _ data).bind ?_ ?_
      · intro _ _ hFalse
        exact hFalse.elim
      · intro _ after hSame
        exact (hSame (hThird.fault?_eq_none hPasses (by decide))).trans hThird.failures
    · rintro _ opened ⟨hRefused, -⟩
      exact absurd (fun i hi => hFirst.rest (n := 3) hPasses i (by omega)) hRefused
  · rintro _ _ ⟨hRead, rfl⟩
    exact absurd (hPasses.fault?_eq_none (by decide)) hRead

end Rekindle.Protocol
