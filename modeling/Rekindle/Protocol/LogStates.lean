import Mathlib.Data.List.Nodup
import Rekindle.Library.Pages
import Rekindle.Protocol.Log

/-! # What the records of a log hold

The segments hold the pages of a list of values, and the spine counts some of them. The two agree
unless an append was cut off between its writes.
-/
namespace Rekindle.Protocol
set_option autoImplicit false

open Fallible Pages

variable {RecordKey KeyPair : Type} (codec : Codec RecordKey)

def spineOf (keys : List RecordKey) (count : Nat) : LogSpine :=
  ⟨UInt64.ofNat count, 255, keys.map codec.keyToString⟩

@[simp] theorem spineOf_segmentCapacity (keys : List RecordKey) (count : Nat) :
    (spineOf codec keys count).segmentCapacity = 255 := rfl

theorem spineOf_segment? {keys : List RecordKey} {i : Nat} (hi : i < keys.length) (count : Nat) :
    (spineOf codec keys count).segments[i]? = some (codec.keyToString keys[i]) := by
  simp [spineOf, hi]

/-- Each segment of the owner's holds its page of the values. -/
def Segments (records : RecordKey → Option (Record KeyPair)) (owner : KeyPair) (keys : List RecordKey)
    (values : List Bytes) : Prop :=
  ∀ i (h : i < keys.length), ∃ record, records keys[i] = some record ∧ record.owner = owner ∧
    record.Holds codec (page 255 i values)

/-- The segments hold the values, of which the spine counts the first `count`. -/
structure Stored (records : RecordKey → Option (Record KeyPair)) (spineKey : RecordKey) (owner : KeyPair)
    (keys : List RecordKey) (count : Nat) (values : List Bytes) : Prop where
  spine : ∃ record, records spineKey = some record ∧ record.owner = owner ∧ record.subkeys = 1 ∧
    record.values 0 = some (codec.spineToVec (spineOf codec keys count))
  segments : Segments codec records owner keys values
  spans : Spans 255 keys.length count
  distinct : (spineKey :: keys).Nodup
  keys_le : keys.length ≤ maxValueSize

section Frames

variable {codec} {records records' : RecordKey → Option (Record KeyPair)} {spineKey : RecordKey}
  {owner : KeyPair} {keys : List RecordKey} {count : Nat} {values values' : List Bytes}

theorem Segments.frame (h : Segments codec records owner keys values)
    (hSame : ∀ key ∈ keys, records' key = records key) : Segments codec records' owner keys values := by
  intro i hi
  rw [hSame _ (List.getElem_mem hi)]
  exact h i hi

theorem Stored.known (h : Stored codec records spineKey owner keys count values) {key : RecordKey}
    (hKey : key ∈ spineKey :: keys) : records key ≠ none := by
  rcases List.mem_cons.mp hKey with rfl | hKey
  · obtain ⟨record, hRecord, -⟩ := h.spine
    simp [hRecord]
  · obtain ⟨i, hi, rfl⟩ := List.getElem_of_mem hKey
    obtain ⟨record, hRecord, -⟩ := h.segments i hi
    simp [hRecord]

/-- Records that no spine names make no difference. -/
theorem Stored.frame (h : Stored codec records spineKey owner keys count values)
    (hSame : ∀ key, records key ≠ none → records' key = records key) :
    Stored codec records' spineKey owner keys count values where
  spine := by
    rw [hSame _ (h.known List.mem_cons_self)]
    exact h.spine
  segments := h.segments.frame fun _ hKey => hSame _ (h.known (List.mem_cons_of_mem _ hKey))
  spans := h.spans
  distinct := h.distinct
  keys_le := h.keys_le

theorem Stored.spineKey_ne (h : Stored codec records spineKey owner keys count values) {key : RecordKey}
    (hKey : key ∈ keys) : spineKey ≠ key := by
  rintro rfl
  exact (List.nodup_cons.mp h.distinct).1 hKey

theorem Stored.toNat_count (h : Stored codec records spineKey owner keys count values) :
    (UInt64.ofNat count).toNat = count := by
  have hEnough := h.spans.enough
  have hKeys := h.keys_le
  apply UInt64.toNat_ofNat_of_lt'
  simp only [maxValueSize, UInt64.size] at hKeys ⊢
  omega

theorem Stored.count_lt (h : Stored codec records spineKey owner keys count values) :
    count + 255 < UInt64.size := by
  have hEnough := h.spans.enough
  have hKeys := h.keys_le
  simp only [maxValueSize, UInt64.size] at hKeys ⊢
  omega

variable [DecidableEq RecordKey]

/-- The last segment is rewritten. -/
theorem Segments.rewrite (h : Segments codec records owner keys values) (hDistinct : keys.Nodup) {last : Nat}
    (hLast : keys.length = last + 1) {record : Record KeyPair} (hOwner : record.owner = owner)
    (hHolds : record.Holds codec (page 255 last values'))
    (hBefore : ∀ i < last, page 255 i values' = page 255 i values) :
    Segments codec (Function.update records (keys[last]) (some record)) owner keys values' := by
  intro i hi
  by_cases hi' : i = last
  · subst hi'
    exact ⟨record, Function.update_self .., hOwner, hHolds⟩
  · have hNe : keys[i] ≠ keys[last] := by
      rw [ne_eq, List.Nodup.getElem_inj_iff hDistinct]
      exact hi'
    rw [Function.update_of_ne hNe, hBefore i (by omega)]
    exact h i hi

theorem Stored.rewrite (h : Stored codec records spineKey owner keys count values) {last : Nat}
    (hLast : keys.length = last + 1) {record : Record KeyPair} (hOwner : record.owner = owner)
    (hHolds : record.Holds codec (page 255 last values'))
    (hBefore : ∀ i < last, page 255 i values' = page 255 i values) :
    Stored codec (Function.update records (keys[last]) (some record)) spineKey owner keys count values' where
  spine := by
    rw [Function.update_of_ne (h.spineKey_ne (List.getElem_mem _))]
    exact h.spine
  segments := h.segments.rewrite (List.nodup_cons.mp h.distinct).2 hLast hOwner hHolds hBefore
  spans := h.spans
  distinct := h.distinct
  keys_le := h.keys_le

end Frames

/-! ## Reading -/

/-- The records are as they were, and the spine is open as it was. -/
def Read (spineKey : RecordKey) (before after : Dht RecordKey KeyPair) : Prop :=
  after.records = before.records ∧ after.opened spineKey = before.opened spineKey

theorem Read.trans {spineKey : RecordKey} {a b c : Dht RecordKey KeyPair} (hFirst : Read spineKey a b)
    (hSecond : Read spineKey b c) : Read spineKey a c :=
  ⟨hSecond.1.trans hFirst.1, hSecond.2.trans hFirst.2⟩

section Reading

variable {codec} [DecidableEq RecordKey] {log : DHTLog RecordKey KeyPair}
  {dht : Dht RecordKey KeyPair} {owner : KeyPair} {keys : List RecordKey} {count : Nat} {values : List Bytes}

omit [DecidableEq RecordKey] in
theorem readSpine_settles (hLaws : codec.Laws)
    (hStored : Stored codec dht.records log.spineKey owner keys count values)
    (hOpen : dht.opened log.spineKey ≠ none) :
    Settles (fun spine after => spine = spineOf codec keys count ∧ dht.fault? = none ∧ after = dht.next)
      (fun _ after => dht.fault? ≠ none ∧ after = dht.next.failed) (log.readSpine codec) dht := by
  obtain ⟨record, hRecord, -, hSubkeys, hSpine⟩ := hStored.spine
  refine (getDhtValue_settles "read spine" hRecord hOpen (by omega)).bind ?_ fun _ _ h => h
  rintro _ _ ⟨hFault, rfl, rfl⟩
  simp only [hSpine, hLaws.spine]
  exact ⟨rfl, hFault, rfl⟩

theorem openAs_settles (hLaws : codec.Laws) {key : RecordKey} (writer : Option KeyPair)
    (hKnown : dht.records key ≠ none) :
    Settles (fun opened after => opened = ⟨key, writer⟩ ∧ after.failures = dht.failures ∧
        after.records = dht.records ∧ after.opened key = some writer)
      (fun _ after => after.failures = dht.failures + 1)
      (DHTLog.openAs codec (codec.keyToString key) writer) dht := by
  unfold DHTLog.openAs
  rw [hLaws.key]
  refine (openDhtRecord_settles _ writer hKnown).bind ?_ ?_
  · rintro _ _ ⟨-, rfl⟩
    exact settles_pure ⟨rfl, rfl, rfl, Function.update_self ..⟩
  · rintro _ _ ⟨-, rfl⟩
    rfl

omit [DecidableEq RecordKey] in
theorem len_settles (hLaws : codec.Laws)
    (hStored : Stored codec dht.records log.spineKey owner keys count values)
    (hOpen : dht.opened log.spineKey ≠ none) :
    Settles (fun total after => total = UInt64.ofNat count ∧ after.failures = dht.failures ∧
        Read log.spineKey dht after)
      (fun _ after => after.failures = dht.failures + 1 ∧ Read log.spineKey dht after) (log.len codec) dht := by
  refine (readSpine_settles hLaws hStored hOpen).bind ?_ ?_
  · rintro _ _ ⟨rfl, -, rfl⟩
    exact settles_pure ⟨rfl, rfl, rfl, rfl⟩
  · rintro _ _ ⟨-, rfl⟩
    exact ⟨rfl, rfl, rfl⟩

/-- Opening a segment and reading from it. -/
theorem open_segment_settles (hLaws : codec.Laws)
    (hStored : Stored codec dht.records log.spineKey owner keys count values) {i : Nat} (hi : i < keys.length) :
    Settles (fun segment after => segment = ⟨keys[i], log.ownerKeypair, 255⟩ ∧
        after.opened keys[i] ≠ none ∧ after.failures = dht.failures ∧ Read log.spineKey dht after)
      (fun _ after => after.failures = dht.failures + 1 ∧ Read log.spineKey dht after)
      (DHTShortArray.open codec (codec.keyToString keys[i]) log.ownerKeypair) dht := by
  obtain ⟨record, hRecord, -, hHolds⟩ := hStored.segments i hi
  have hSpine := hStored.spineKey_ne (List.getElem_mem hi)
  refine (DHTShortArray.open_settles hLaws hRecord hHolds log.ownerKeypair).mono ?_ ?_
  · rintro _ _ ⟨rfl, hPassed, hOpened, hRecords, hOther⟩
    exact ⟨rfl, by simp [hOpened], hPassed.failures, hRecords, hOther _ hSpine⟩
  · rintro _ _ ⟨-, hFailures, hRecords, hOther⟩
    exact ⟨hFailures, hRecords, hOther _ hSpine⟩

omit [DecidableEq RecordKey] in
theorem get_segment_settles (hLaws : codec.Laws)
    (hStored : Stored codec dht.records log.spineKey owner keys count values) {pos : Nat}
    (hSegment : pos / 255 < keys.length) (hOpen : dht.opened keys[pos / 255] ≠ none) :
    Settles (fun entry after => entry = values[pos]? ∧ after.failures = dht.failures ∧
        after.opened = dht.opened ∧ Read log.spineKey dht after)
      (fun _ after => after.failures = dht.failures + 1 ∧ Read log.spineKey dht after)
      ((⟨keys[pos / 255], log.ownerKeypair, 255⟩ : DHTShortArray RecordKey KeyPair).get codec (pos % 255))
      dht := by
  obtain ⟨record, hRecord, -, hHolds⟩ := hStored.segments _ hSegment
  refine (DHTShortArray.get_settles hLaws hRecord hHolds hOpen log.ownerKeypair (pos % 255)).mono ?_ ?_
  · rintro _ _ ⟨rfl, hFailures, hRecords, hOpened⟩
    exact ⟨getElem?_page (by decide) values pos, hFailures, hOpened, hRecords, congrFun hOpened _⟩
  · rintro _ _ ⟨hFailures, hRecords, hOpened⟩
    exact ⟨hFailures, hRecords, congrFun hOpened _⟩

/-- An entry is found where the spine counts it. -/
theorem get_settles (hLaws : codec.Laws)
    (hStored : Stored codec dht.records log.spineKey owner keys count values)
    (hOpen : dht.opened log.spineKey ≠ none) (pos : UInt64) :
    Settles (fun entry after => entry = (values.take count)[pos.toNat]? ∧ after.failures = dht.failures ∧
        Read log.spineKey dht after)
      (fun _ after => after.failures = dht.failures + 1 ∧ Read log.spineKey dht after)
      (log.get codec pos) dht := by
  have hCount := hStored.toNat_count
  refine (readSpine_settles hLaws hStored hOpen).bind ?_ ?_
  · rintro _ _ ⟨rfl, -, rfl⟩
    by_cases hPos : UInt64.ofNat count ≤ pos
    · rw [if_pos (by exact hPos)]
      rw [UInt64.le_iff_toNat_le, hCount] at hPos
      refine settles_pure ⟨?_, rfl, rfl, rfl⟩
      rw [List.getElem?_eq_none]
      exact (List.length_take_le ..).trans hPos
    · rw [if_neg (by exact hPos)]
      rw [UInt64.le_iff_toNat_le, hCount, Nat.not_le] at hPos
      have hSegment : pos.toNat / 255 < keys.length := hStored.spans.div_lt (by decide) hPos
      simp only [spineOf_segmentCapacity, OfNat.ofNat_ne_zero, if_false, spineOf_segment? codec hSegment]
      have hNext : Stored codec dht.next.records log.spineKey owner keys count values := hStored
      refine (open_segment_settles hLaws hNext hSegment).bind ?_ fun _ _ h => h
      rintro _ after ⟨rfl, hOpened, hFailures, hRead⟩
      have hStored' : Stored codec after.records log.spineKey owner keys count values := by
        rw [hRead.1]
        exact hStored
      refine (get_segment_settles hLaws hStored' hSegment hOpened).mono ?_ ?_
      · rintro _ _ ⟨rfl, hFailures', -, hRead'⟩
        rw [List.getElem?_take_of_lt hPos]
        exact ⟨rfl, hFailures'.trans hFailures, hRead.trans hRead'⟩
      · rintro _ _ ⟨hFailures', hRead'⟩
        exact ⟨hFailures'.trans (congrArg _ hFailures), hRead.trans hRead'⟩
  · rintro _ _ ⟨-, rfl⟩
    exact ⟨rfl, rfl, rfl⟩

/-- The segment that the loop has open, if it has one, is one of the log's. -/
def Current (log : DHTLog RecordKey KeyPair) (dht : Dht RecordKey KeyPair) (keys : List RecordKey)
    (current : Option (Nat × DHTShortArray RecordKey KeyPair)) : Prop :=
  ∀ i segment, current = some (i, segment) →
    ∃ h : i < keys.length, segment = ⟨keys[i], log.ownerKeypair, 255⟩ ∧ dht.opened keys[i] ≠ none

theorem getElem?_toList_append_drop {α : Type} (l : List α) (pos n : Nat) :
    l[pos]?.toList ++ (l.drop (pos + 1)).take n = (l.drop pos).take (n + 1) := by
  by_cases h : pos < l.length
  · rw [List.drop_eq_getElem_cons h, List.getElem?_eq_getElem h]
    rfl
  · rw [List.getElem?_eq_none (by omega), List.drop_eq_nil_of_le (by omega), List.drop_eq_nil_of_le (by omega)]
    simp

/-- The loop reads the segment of its position, whether it was open or not. -/
theorem tailFrom_settles (hLaws : codec.Laws)
    (hStored : Stored codec dht.records log.spineKey owner keys count values) (n pos : Nat)
    (hEnd : pos + n = count) (current : Option (Nat × DHTShortArray RecordKey KeyPair))
    (hCurrent : Current log dht keys current) :
    Settles (fun entries after => entries = (values.drop pos).take n ∧ after.failures = dht.failures ∧
        Read log.spineKey dht after)
      (fun _ after => after.failures = dht.failures + 1 ∧ Read log.spineKey dht after)
      (log.tailFrom codec (spineOf codec keys count) pos n current) dht := by
  induction n generalizing pos current dht with
  | zero => exact settles_pure ⟨rfl, rfl, rfl, rfl⟩
  | succ n ih =>
    have hSegment : pos / 255 < keys.length := hStored.spans.div_lt (by decide) (by omega)
    -- what the loop does once the segment of the position is open
    have hRest {opened : Dht RecordKey KeyPair} (hOpened : opened.opened keys[pos / 255] ≠ none)
        (hFailures : opened.failures = dht.failures) (hRead : Read log.spineKey dht opened)
        (next : Option (Nat × DHTShortArray RecordKey KeyPair))
        (hNext : ∀ after : Dht RecordKey KeyPair, after.opened = opened.opened → Current log after keys next) :
        Settles (fun entries after => entries = (values.drop pos).take (n + 1) ∧
            after.failures = dht.failures ∧ Read log.spineKey dht after)
          (fun _ after => after.failures = dht.failures + 1 ∧ Read log.spineKey dht after)
          (do
            let entry ← (⟨keys[pos / 255], log.ownerKeypair, 255⟩ : DHTShortArray RecordKey KeyPair).get codec
              (pos % 255)
            let rest ← log.tailFrom codec (spineOf codec keys count) (pos + 1) n next
            pure (entry.toList ++ rest)) opened := by
      have hStored' : Stored codec opened.records log.spineKey owner keys count values := hRead.1 ▸ hStored
      refine (get_segment_settles hLaws hStored' hSegment hOpened).bind ?_ ?_
      · rintro _ middle ⟨rfl, hFailures', hSame, hRead'⟩
        have hMiddle : Stored codec middle.records log.spineKey owner keys count values := hRead'.1 ▸ hStored'
        refine (ih hMiddle (pos + 1) (by omega) next (hNext middle hSame)).bind ?_ ?_
        · rintro _ after ⟨rfl, hFailures'', hRead''⟩
          exact settles_pure ⟨getElem?_toList_append_drop values pos n,
            hFailures''.trans (hFailures'.trans hFailures), (hRead.trans hRead').trans hRead''⟩
        · rintro _ after ⟨hFailures'', hRead''⟩
          exact ⟨by rw [hFailures'', hFailures', hFailures], (hRead.trans hRead').trans hRead''⟩
      · rintro _ after ⟨hFailures', hRead'⟩
        exact ⟨by rw [hFailures', hFailures], hRead.trans hRead'⟩
    unfold DHTLog.tailFrom
    simp only [spineOf_segmentCapacity, spineOf_segment? codec hSegment]
    split
    · rename_i i segment hCached
      obtain ⟨hFound, hIndex⟩ := Option.filter_eq_some_iff.mp hCached
      obtain rfl : i = pos / 255 := of_decide_eq_true hIndex
      obtain ⟨_, rfl, hOpened⟩ := hCurrent _ _ hFound
      refine hRest hOpened rfl ⟨rfl, rfl⟩ current fun after hSame i segment hSome => ?_
      obtain ⟨hi, rfl, hOpened'⟩ := hCurrent i segment hSome
      exact ⟨hi, rfl, hSame ▸ hOpened'⟩
    · refine (open_segment_settles hLaws hStored hSegment).bind ?_ fun _ _ h => h
      rintro _ after ⟨rfl, hOpened, hFailures, hRead⟩
      refine hRest hOpened hFailures hRead _ fun _ hSame i segment hSome => ?_
      cases hSome
      exact ⟨hSegment, rfl, hSame ▸ hOpened⟩

theorem tail_settles (hLaws : codec.Laws)
    (hStored : Stored codec dht.records log.spineKey owner keys count values)
    (hOpen : dht.opened log.spineKey ≠ none) (n : UInt32) :
    Settles (fun entries after => entries = (values.take count).drop (count - n.toNat) ∧
        after.failures = dht.failures ∧ Read log.spineKey dht after)
      (fun _ after => after.failures = dht.failures + 1 ∧ Read log.spineKey dht after)
      (log.tail codec n) dht := by
  have hCount := hStored.toNat_count
  refine (readSpine_settles hLaws hStored hOpen).bind ?_ ?_
  · rintro _ _ ⟨rfl, -, rfl⟩
    by_cases hNone : (spineOf codec keys count).totalCount = 0 ∨ n = 0
    · rw [if_pos hNone]
      refine settles_pure ⟨?_, rfl, rfl, rfl⟩
      refine (List.drop_eq_nil_of_le ((List.length_take_le ..).trans ?_)).symm
      rcases hNone with hZero | rfl
      · have hZero : (UInt64.ofNat count).toNat = 0 := congrArg UInt64.toNat hZero
        omega
      · exact Nat.le_refl _
    · rw [if_neg hNone]
      simp only [spineOf_segmentCapacity, OfNat.ofNat_ne_zero, if_false]
      have hNext : Stored codec dht.next.records log.spineKey owner keys count values := hStored
      have hTotal : (spineOf codec keys count).totalCount.toNat = count := hCount
      rw [hTotal]
      refine (tailFrom_settles hLaws hNext _ _ (by omega) none nofun).mono ?_ fun _ _ h => h
      rintro _ _ ⟨rfl, hFailures, hRead⟩
      exact ⟨List.take_drop .. |>.trans (by congr 2; omega), hFailures, hRead⟩
  · rintro _ _ ⟨-, rfl⟩
    exact ⟨rfl, rfl, rfl⟩

end Reading

end Rekindle.Protocol
