import Rekindle.Protocol.AppendSections
import Rekindle.Protocol.LogAppends

/-! # An append that nobody interferes with

What an append knows at each of its stages, as long as no other append makes a call. At every stage the
log holds what it held, and reads as it did.
-/
namespace Rekindle.Protocol
set_option autoImplicit false

open Fallible Pages

section Stages

variable {RecordKey KeyPair : Type} {codec : Codec RecordKey} {spineKey : RecordKey} {owner : KeyPair}
  {dht after : Dht RecordKey KeyPair} {keys segments : List RecordKey} {count : Nat} {values : List Bytes}

/-- The stored spine names the keys, which are the first of the segments that hold the values. -/
structure Underway (codec : Codec RecordKey) (spineKey : RecordKey) (owner : KeyPair)
    (dht : Dht RecordKey KeyPair) (keys segments : List RecordKey) (count : Nat) (values : List Bytes) : Prop where
  spine : ∃ record, dht.records spineKey = some record ∧ record.owner = owner ∧ record.subkeys = 1 ∧
    record.values 0 = some (codec.spineToVec (spineOf codec keys count))
  held : Segments codec dht.records owner segments values
  named : keys <+: segments
  spans : Spans 255 keys.length count
  distinct : (spineKey :: segments).Nodup
  keys_le : keys.length ≤ maxValueSize
  opened : dht.opened spineKey = some (some owner)

theorem Segments.of_prefix {records : RecordKey → Option (Record KeyPair)}
    (h : Segments codec records owner segments values) (hNamed : keys <+: segments) :
    Segments codec records owner keys values := by
  intro i hi
  obtain ⟨more, rfl⟩ := hNamed
  have hHeld := h i (by rw [List.length_append]; omega)
  rwa [List.getElem_append_left hi] at hHeld

theorem Underway.stored (h : Underway codec spineKey owner dht keys segments count values) :
    Stored codec dht.records spineKey owner keys count values where
  spine := h.spine
  segments := h.held.of_prefix h.named
  spans := h.spans
  distinct := h.distinct.sublist (List.Sublist.cons_cons _ h.named.sublist)
  keys_le := h.keys_le

theorem Stored.underway (h : Stored codec dht.records spineKey owner keys count values)
    (hOpen : dht.opened spineKey = some (some owner)) : Underway codec spineKey owner dht keys keys count values where
  spine := h.spine
  held := h.segments
  named := List.prefix_rfl
  spans := h.spans
  distinct := h.distinct
  keys_le := h.keys_le
  opened := hOpen

theorem Underway.frame (h : Underway codec spineKey owner dht keys segments count values)
    (hRecords : ∀ key ∈ spineKey :: segments, after.records key = dht.records key)
    (hOpened : after.opened spineKey = dht.opened spineKey) :
    Underway codec spineKey owner after keys segments count values where
  spine := by
    rw [hRecords _ List.mem_cons_self]
    exact h.spine
  held := h.held.frame fun key hKey => hRecords key (List.mem_cons_of_mem _ hKey)
  named := h.named
  spans := h.spans
  distinct := h.distinct
  keys_le := h.keys_le
  opened := hOpened.trans h.opened

theorem Underway.idle (h : Underway codec spineKey owner dht keys segments count values) :
    Underway codec spineKey owner dht keys keys count values := h.stored.underway h.opened

theorem Underway.known (h : Underway codec spineKey owner dht keys segments count values) {key : RecordKey}
    (hKey : key ∈ spineKey :: segments) : dht.records key ≠ none := by
  rcases List.mem_cons.mp hKey with rfl | hKey
  · obtain ⟨record, hRecord, -⟩ := h.spine
    simp [hRecord]
  · obtain ⟨i, hi, rfl⟩ := List.getElem_of_mem hKey
    obtain ⟨record, hRecord, -⟩ := h.held i hi
    simp [hRecord]

theorem Underway.ne (h : Underway codec spineKey owner dht keys segments count values) {key : RecordKey}
    (hKey : key ∈ segments) : key ≠ spineKey := by
  rintro rfl
  exact (List.nodup_cons.mp h.distinct).1 hKey

variable [DecidableEq RecordKey]

/-- The record of the last segment is rewritten. -/
theorem Underway.rewrite (h : Underway codec spineKey owner dht keys segments count values) {values' : List Bytes}
    {last : Nat} (hLast : segments.length = last + 1) {record : Record KeyPair} (hOwner : record.owner = owner)
    (hHolds : record.Holds codec (page 255 last values'))
    (hBefore : ∀ i < last, page 255 i values' = page 255 i values) (hIndex : last < segments.length)
    (hRecords : after.records = Function.update dht.records segments[last] (some record))
    (hOpened : after.opened = dht.opened) : Underway codec spineKey owner after keys segments count values' where
  spine := by
    rw [hRecords, Function.update_of_ne (h.ne (List.getElem_mem _)).symm]
    exact h.spine
  held := by
    rw [hRecords]
    exact h.held.rewrite (List.nodup_cons.mp h.distinct).2 hLast hOwner hHolds hBefore
  named := h.named
  spans := h.spans
  distinct := h.distinct
  keys_le := h.keys_le
  opened := by rw [hOpened, h.opened]

/-- A record that was not there comes in as one more segment. -/
theorem Underway.push (h : Underway codec spineKey owner dht keys keys count values)
    (hFull : values.length = 255 * keys.length) {key : RecordKey} (hKey : key ∉ spineKey :: keys)
    {record : Record KeyPair} (hOwner : record.owner = owner) (hHolds : record.Holds codec [])
    (hRecords : after.records = Function.update dht.records key (some record))
    (hOpened : after.opened spineKey = dht.opened spineKey) :
    Underway codec spineKey owner after keys (keys ++ [key]) count values where
  spine := by
    have hNe : spineKey ≠ key := by
      rintro rfl
      exact hKey List.mem_cons_self
    rw [hRecords, Function.update_of_ne hNe]
    exact h.spine
  held := by
    intro i hi
    rw [List.length_append, List.length_singleton] at hi
    by_cases hNew : i = keys.length
    · subst hNew
      rw [List.getElem_concat_length rfl, hRecords, page_eq_nil (by omega)]
      exact ⟨record, Function.update_self .., hOwner, hHolds⟩
    · have hOld : i < keys.length := by omega
      have hNe : keys[i] ≠ key := by
        rintro rfl
        exact hKey (List.mem_cons_of_mem _ (List.getElem_mem _))
      rw [List.getElem_append_left hOld, hRecords, Function.update_of_ne hNe]
      exact h.held i hOld
  named := List.prefix_append ..
  spans := h.spans
  distinct := by
    rw [← List.cons_append, List.nodup_append]
    refine ⟨h.distinct, List.nodup_singleton _, fun other hOther _ hNew => ?_⟩
    rw [List.mem_singleton.mp hNew]
    rintro rfl
    exact hKey hOther
  keys_le := h.keys_le
  opened := hOpened.trans h.opened

/-! ## What an append knows -/

/-- The append has chosen the segment for its entry. -/
structure Chosen (codec : Codec RecordKey) (spineKey : RecordKey) (owner : KeyPair) (dht : Dht RecordKey KeyPair)
    (keys segments : List RecordKey) (last count : Nat) (values : List Bytes) (spine : LogSpine)
    (segment : DHTShortArray RecordKey KeyPair) : Prop where
  underway : Underway codec spineKey owner dht keys segments count values
  spine : spine = spineOf codec segments count
  length : segments.length = last + 1
  target : segments[last]? = some segment.recordKey ∧ segment.stride = 255
  opened : dht.opened segment.recordKey = some (some owner)
  started : 255 * last ≤ count
  room : count < 255 * (last + 1)

/-- What is known at a stage of an append to a log with the values. -/
def AtStage (codec : Codec RecordKey) (spineKey : RecordKey) (owner : KeyPair) (dht : Dht RecordKey KeyPair)
    (values : List Bytes) (data : Bytes) : AppendStage RecordKey KeyPair → Prop
  | .readSpine => ∃ keys, Underway codec spineKey owner dht keys keys values.length values
  | .createSegment writer spine => writer = owner ∧ ∃ keys,
      Underway codec spineKey owner dht keys keys values.length values ∧
      spine = spineOf codec keys values.length ∧ values.length % 255 = 0
  | .writeEmptyHead spine segment => ∃ keys,
      Underway codec spineKey owner dht keys keys values.length values ∧
      spine = spineOf codec keys values.length ∧ values.length % 255 = 0 ∧ segment.stride = 255 ∧
      segment.recordKey ∉ spineKey :: keys ∧
      dht.records segment.recordKey = some ⟨owner, 256, fun _ => none⟩ ∧
      dht.opened segment.recordKey = some (some owner)
  | .openSegment writer spine latestKey => writer = owner ∧ ∃ keys last,
      Underway codec spineKey owner dht keys keys values.length values ∧
      spine = spineOf codec keys values.length ∧ values.length % 255 ≠ 0 ∧ keys.length = last + 1 ∧
      keys[last]?.map codec.keyToString = some latestKey
  | .readSegment writer spine recordKey => writer = owner ∧ ∃ keys last,
      Underway codec spineKey owner dht keys keys values.length values ∧
      spine = spineOf codec keys values.length ∧ values.length % 255 ≠ 0 ∧ keys.length = last + 1 ∧
      keys[last]? = some recordKey ∧ dht.opened recordKey = some (some owner)
  | .readHead spine segment => ∃ keys segments last,
      Chosen codec spineKey owner dht keys segments last values.length values spine segment
  | .writeSlot spine segment head slot => ∃ keys segments last,
      Chosen codec spineKey owner dht keys segments last values.length values spine segment ∧
      slot = (page 255 last values).length ∧ head = ⟨255, List.range slot⟩
  | .writeHead spine segment head => ∃ keys segments last,
      Chosen codec spineKey owner dht keys segments last values.length values spine segment ∧
      head = ⟨255, List.range ((page 255 last values).length + 1)⟩ ∧
      ∀ record, dht.records segment.recordKey = some record →
        record.values ((page 255 last values).length + 1) = some data
  | .writeSpine spine => ∃ keys segments,
      Underway codec spineKey owner dht keys segments values.length (values ++ [data]) ∧
      Spans 255 segments.length (values.length + 1) ∧ spine = spineOf codec segments values.length

omit [DecidableEq RecordKey] in
/-- At every stage the log holds the values, and at most the entry of the append behind them. -/
theorem AtStage.stored {values : List Bytes} {data : Bytes} {stage : AppendStage RecordKey KeyPair}
    (h : AtStage codec spineKey owner dht values data stage) :
    dht.opened spineKey = some (some owner) ∧ ∃ keys held, held.take values.length = values ∧
      Stored codec dht.records spineKey owner keys values.length held := by
  have hExact {keys segments : List RecordKey} (hUnderway : Underway codec spineKey owner dht keys segments
      values.length values) : dht.opened spineKey = some (some owner) ∧ ∃ keys held,
      held.take values.length = values ∧ Stored codec dht.records spineKey owner keys values.length held :=
    ⟨hUnderway.opened, keys, values, List.take_length, hUnderway.stored⟩
  cases stage with
  | readSpine =>
    obtain ⟨keys, hUnderway⟩ := h
    exact hExact hUnderway
  | createSegment writer spine =>
    obtain ⟨-, keys, hUnderway, -⟩ := h
    exact hExact hUnderway
  | writeEmptyHead spine segment =>
    obtain ⟨keys, hUnderway, -⟩ := h
    exact hExact hUnderway
  | openSegment writer spine latestKey =>
    obtain ⟨-, keys, last, hUnderway, -⟩ := h
    exact hExact hUnderway
  | readSegment writer spine recordKey =>
    obtain ⟨-, keys, last, hUnderway, -⟩ := h
    exact hExact hUnderway
  | readHead spine segment =>
    obtain ⟨keys, segments, last, hChosen⟩ := h
    exact hExact hChosen.underway
  | writeSlot spine segment head slot =>
    obtain ⟨keys, segments, last, hChosen, -⟩ := h
    exact hExact hChosen.underway
  | writeHead spine segment head =>
    obtain ⟨keys, segments, last, hChosen, -⟩ := h
    exact hExact hChosen.underway
  | writeSpine spine =>
    obtain ⟨keys, segments, hUnderway, -⟩ := h
    exact ⟨hUnderway.opened, keys, _, List.take_left, hUnderway.stored⟩

omit [DecidableEq RecordKey] in
/-- The record of the chosen segment. -/
theorem Chosen.record {codec : Codec RecordKey} {last : Nat} {spine : LogSpine}
    {segment : DHTShortArray RecordKey KeyPair}
    (h : Chosen codec spineKey owner dht keys segments last count values spine segment) :
    ∃ record, dht.records segment.recordKey = some record ∧ record.owner = owner ∧
      record.Holds codec (page 255 last values) := by
  obtain ⟨hLast, hKey⟩ := List.getElem?_eq_some_iff.mp h.target.1
  rw [← hKey]
  exact h.underway.held last hLast

omit [DecidableEq RecordKey] in
theorem Chosen.next {last : Nat} {spine : LogSpine} {segment : DHTShortArray RecordKey KeyPair}
    (h : Chosen codec spineKey owner dht keys segments last count values spine segment)
    (hRecords : after.records = dht.records) (hOpened : after.opened = dht.opened) :
    Chosen codec spineKey owner after keys segments last count values spine segment where
  underway := h.underway.frame (fun _ _ => congrFun hRecords _) (congrFun hOpened _)
  spine := h.spine
  length := h.length
  target := h.target
  opened := (congrFun hOpened _).trans h.opened
  started := h.started
  room := h.room

end Stages

/-! ## One call -/

section Calls

variable {RecordKey KeyPair : Type} {codec : Codec RecordKey} {log : DHTLog RecordKey KeyPair} {owner : KeyPair}
  {dht : Dht RecordKey KeyPair} {keys segments : List RecordKey} {values : List Bytes} {data : Bytes}

/-- The log is as it was before the append. -/
def Untouched (codec : Codec RecordKey) (log : DHTLog RecordKey KeyPair) (owner : KeyPair)
    (dht : Dht RecordKey KeyPair) (values : List Bytes) : Prop :=
  ∃ keys, Underway codec log.spineKey owner dht keys keys values.length values

/-- What a call of the append leads to. -/
def Reaches (codec : Codec RecordKey) (log : DHTLog RecordKey KeyPair) (owner : KeyPair) (values : List Bytes)
    (data : Bytes) (next : AppendStage RecordKey KeyPair ⊕ UInt64) (after : Dht RecordKey KeyPair) : Prop :=
  match next with
  | .inl stage => AtStage codec log.spineKey owner after values data stage
  | .inr position => position = UInt64.ofNat values.length ∧ Untouched codec log owner after (values ++ [data])

theorem Underway.untouched (h : Underway codec log.spineKey owner dht keys segments values.length values)
    {after : Dht RecordKey KeyPair} (hRecords : ∀ key, dht.records key ≠ none → after.records key = dht.records key)
    (hOpened : after.opened log.spineKey = dht.opened log.spineKey) : Untouched codec log owner after values :=
  ⟨keys, h.idle.frame (fun key hKey => hRecords key (h.idle.known hKey)) hOpened⟩

variable [DecidableEq RecordKey] [DecidableEq KeyPair]

omit [DecidableEq KeyPair] in
theorem readSpine_call_settles (hLaws : codec.Laws) (hWriter : log.ownerKeypair = some owner)
    (h : Untouched codec log owner dht values) :
    Settles (fun stage after => AtStage codec log.spineKey owner after values data stage)
      (fun _ after => Untouched codec log owner after values)
      (AppendStage.readSpine.call codec log) dht := by
  obtain ⟨keys, hUnderway⟩ := h
  have hStored := hUnderway.stored
  have hNext : Underway codec log.spineKey owner dht.next keys keys values.length values :=
    hUnderway.frame (fun _ _ => rfl) rfl
  simp only [AppendStage.call]
  rw [hWriter]
  refine (readSpine_settles hLaws hStored (by simp [hUnderway.opened])).bind ?_ ?_
  · rintro _ _ ⟨rfl, hRead, rfl⟩
    rw [needsNewSegment_spineOf hStored]
    by_cases hFull : values.length % 255 = 0
    · simp only [pure_bind, hFull, decide_true, if_true]
      exact settles_pure ⟨rfl, keys, hNext, rfl, hFull⟩
    · obtain ⟨last, hLast, -⟩ := hStored.spans.of_room hFull
      have hIndex : last < keys.length := by omega
      simp only [pure_bind, hFull, decide_false, Bool.false_eq_true, if_false, spineOf_getLast? hLast hIndex, orThrow,
        Option.elim_some, ofExcept_ok_bind]
      exact settles_pure ⟨rfl, keys, last, hNext, rfl, hFull, hLast, by simp [hIndex]⟩
  · rintro _ _ ⟨hRead, rfl⟩
    exact hUnderway.untouched (fun _ _ => rfl) rfl

omit [DecidableEq KeyPair] in
theorem createSegment_call_settles {writer : KeyPair} {spine : LogSpine}
    (h : AtStage codec log.spineKey owner dht values data (.createSegment writer spine)) :
    Settles (fun stage after => AtStage codec log.spineKey owner after values data stage)
      (fun _ after => Untouched codec log owner after values)
      ((AppendStage.createSegment writer spine).call codec log) dht := by
  obtain ⟨rfl, keys, hUnderway, rfl, hFull⟩ := h
  have hCapacity : (spineOf codec keys values.length).segmentCapacity ≠ 65535 := by simp
  simp only [AppendStage.call]
  rw [if_neg hCapacity]
  refine (createDhtRecord_settles _ 256 (some writer)).bind ?_ ?_
  · rintro ⟨key, keypair⟩ _ ⟨-, ⟨fresh, -, hOwner⟩, hFree, rfl⟩
    obtain rfl : keypair = writer := hOwner
    have hNew : key ∉ log.spineKey :: keys := fun hKey => hUnderway.known hKey hFree
    have hRecords (other : RecordKey) (hKnown : dht.records other ≠ none) :
        (dht.next.created key keypair 256).records other = dht.records other := by
      refine Function.update_of_ne ?_ ..
      rintro rfl
      exact hKnown hFree
    have hOpened : (dht.next.created key keypair 256).opened log.spineKey = dht.opened log.spineKey := by
      refine Function.update_of_ne ?_ ..
      rintro hSame
      exact hNew (hSame ▸ List.mem_cons_self)
    refine (reach_settles _).bind ?_ ?_
    · rintro _ _ ⟨-, rfl⟩
      refine settles_pure ⟨keys, hUnderway.frame ?_ hOpened, rfl, hFull, rfl, hNew, Function.update_self ..,
        Function.update_self ..⟩
      exact fun other hOther => hRecords other (hUnderway.known hOther)
    · rintro _ _ ⟨-, rfl⟩
      exact hUnderway.untouched hRecords hOpened
  · rintro _ _ ⟨-, rfl⟩
    exact hUnderway.untouched (fun _ _ => rfl) rfl

omit [DecidableEq KeyPair] in
theorem openSegment_call_settles (hLaws : codec.Laws) {writer : KeyPair} {spine : LogSpine} {latestKey : String}
    (h : AtStage codec log.spineKey owner dht values data (.openSegment writer spine latestKey)) :
    Settles (fun stage after => AtStage codec log.spineKey owner after values data stage)
      (fun _ after => Untouched codec log owner after values)
      ((AppendStage.openSegment writer spine latestKey).call codec log) dht := by
  obtain ⟨rfl, keys, last, hUnderway, rfl, hPart, hLast, hLatest⟩ := h
  obtain ⟨key, hKey, rfl⟩ := Option.map_eq_some_iff.mp hLatest
  have hMem : key ∈ keys := List.mem_of_getElem? hKey
  simp only [AppendStage.call]
  rw [hLaws.key]
  refine (openDhtRecord_settles _ (some writer) (hUnderway.known (List.mem_cons_of_mem _ hMem))).bind ?_ ?_
  · rintro _ _ ⟨-, rfl⟩
    refine settles_pure ⟨rfl, keys, last, hUnderway.frame (fun _ _ => rfl) ?_, rfl, hPart, hLast, hKey,
      Function.update_self ..⟩
    exact Function.update_of_ne (hUnderway.ne hMem).symm ..
  · rintro _ _ ⟨-, rfl⟩
    exact hUnderway.untouched (fun _ _ => rfl) rfl

omit [DecidableEq KeyPair] in
theorem readSegment_call_settles (hLaws : codec.Laws) {writer : KeyPair} {spine : LogSpine} {recordKey : RecordKey}
    (h : AtStage codec log.spineKey owner dht values data (.readSegment writer spine recordKey)) :
    Settles (fun stage after => AtStage codec log.spineKey owner after values data stage)
      (fun _ after => Untouched codec log owner after values)
      ((AppendStage.readSegment writer spine recordKey).call codec log) dht := by
  obtain ⟨rfl, keys, last, hUnderway, rfl, hPart, hLast, hKey, hOpened⟩ := h
  obtain ⟨hIndex, rfl⟩ := List.getElem?_eq_some_iff.mp hKey
  obtain ⟨record, hRecord, -, hHolds⟩ := hUnderway.held last hIndex
  simp only [AppendStage.call]
  refine (readHeadRaw_settles hLaws hRecord hHolds (by simp [hOpened])).bind ?_ ?_
  · rintro _ _ ⟨rfl, -, rfl⟩
    obtain ⟨last', hLast', hStarted, hRoom, -⟩ := hUnderway.spans.of_room hPart
    obtain rfl : last' = last := by omega
    exact settles_pure ⟨keys, keys, last', hUnderway.frame (fun _ _ => rfl) rfl, rfl, hLast, ⟨hKey, rfl⟩, hOpened,
      hStarted, hRoom⟩
  · rintro _ _ ⟨-, rfl⟩
    exact hUnderway.untouched (fun _ _ => rfl) rfl

omit [DecidableEq KeyPair] in
theorem readHead_call_settles (hLaws : codec.Laws) {spine : LogSpine} {segment : DHTShortArray RecordKey KeyPair}
    (h : AtStage codec log.spineKey owner dht values data (.readHead spine segment)) :
    Settles (fun stage after => AtStage codec log.spineKey owner after values data stage)
      (fun _ after => Untouched codec log owner after values)
      ((AppendStage.readHead spine segment).call codec log) dht := by
  obtain ⟨keys, segments, last, hChosen⟩ := h
  obtain ⟨record, hRecord, -, hHolds⟩ := hChosen.record
  have hShort : (page 255 last values).length < 255 := by
    have hRoom := hChosen.room
    rw [length_page]
    omega
  simp only [AppendStage.call]
  refine (readHeadRaw_settles hLaws hRecord hHolds (by simp [hChosen.opened])).bind ?_ ?_
  · rintro _ _ ⟨rfl, -, rfl⟩
    simp only [hChosen.target.2, List.length_range, Nat.not_le.mpr hShort, if_false, findFreeSlot_range hShort]
    exact settles_pure ⟨keys, segments, last, hChosen.next rfl rfl, rfl, rfl⟩
  · rintro _ _ ⟨-, rfl⟩
    exact hChosen.underway.untouched (fun _ _ => rfl) rfl

theorem writeEmptyHead_settles {spine : LogSpine} {segment : DHTShortArray RecordKey KeyPair}
    (h : AtStage codec log.spineKey owner dht values data (.writeEmptyHead spine segment)) :
    Settles (fun next after => Reaches codec log owner values data next after)
      (fun _ after => Untouched codec log owner after values)
      ((AppendStage.writeEmptyHead spine segment).advance codec log data) dht := by
  obtain ⟨keys, hUnderway, rfl, hFull, hStride, hNew, hRecord, hOpened⟩ := h
  obtain ⟨hLength, -⟩ := hUnderway.spans.of_full hFull
  refine (setDhtValue_settles "write head" hRecord hOpened (by decide : 0 < 256)).bind ?_ ?_
  · rintro _ _ ⟨-, -, rfl⟩
    let written : Record KeyPair := Record.write ⟨owner, 256, fun _ => none⟩ 0 (codec.headToVec ⟨255, []⟩)
    have hRecords : (dht.next.withRecord segment.recordKey written).records =
        Function.update dht.records segment.recordKey (some written) := rfl
    have hPushed := hUnderway.push hLength hNew rfl (record_holds_nil owner) hRecords rfl
    rw [hStride]
    refine settles_pure ⟨keys, keys ++ [segment.recordKey], keys.length, hPushed, ?_, ?_, ⟨?_, hStride⟩, hOpened, ?_, ?_⟩
    · simp [spineOf]
    · rw [List.length_append, List.length_singleton]
    · simp
    · omega
    · omega
  · rintro _ _ ⟨-, rfl⟩
    exact hUnderway.untouched (fun _ _ => rfl) rfl

/-- Writes to the chosen segment. -/
theorem Chosen.setDhtValue_settles {last : Nat} {spine : LogSpine} {segment : DHTShortArray RecordKey KeyPair}
    (h : Chosen codec log.spineKey owner dht keys segments last values.length values spine segment)
    (label : String) {subkey : Nat} (hSubkey : subkey < 256) (value : Bytes) :
    Settles (fun _ after => ∃ record, dht.records segment.recordKey = some record ∧ record.owner = owner ∧
        record.Holds codec (page 255 last values) ∧
        after.records = Function.update dht.records segment.recordKey (some (record.write subkey value)) ∧
        after.opened = dht.opened)
      (fun _ after => Untouched codec log owner after values)
      (setDhtValue label segment.recordKey subkey value) dht := by
  obtain ⟨record, hRecord, rfl, hHolds⟩ := h.record
  refine (Protocol.setDhtValue_settles label hRecord h.opened (by rwa [hHolds.subkeys])).mono ?_ ?_
  · rintro _ _ ⟨-, -, rfl⟩
    exact ⟨record, hRecord, rfl, hHolds, rfl, rfl⟩
  · rintro _ _ ⟨-, rfl⟩
    exact h.underway.untouched (fun _ _ => rfl) rfl

omit [DecidableEq KeyPair] in
theorem Chosen.rewrite {last : Nat} {spine : LogSpine} {segment : DHTShortArray RecordKey KeyPair}
    (h : Chosen codec log.spineKey owner dht keys segments last values.length values spine segment)
    {values' : List Bytes} {record : Record KeyPair} (hOwner : record.owner = owner)
    (hHolds : record.Holds codec (page 255 last values'))
    (hBefore : ∀ i < last, page 255 i values' = page 255 i values) {after : Dht RecordKey KeyPair}
    (hRecords : after.records = Function.update dht.records segment.recordKey (some record))
    (hOpened : after.opened = dht.opened) :
    Underway codec log.spineKey owner after keys segments values.length values' := by
  obtain ⟨hLast, hKey⟩ := List.getElem?_eq_some_iff.mp h.target.1
  rw [← hKey] at hRecords
  exact h.underway.rewrite h.length hOwner hHolds hBefore (by have := h.length; omega) hRecords hOpened

theorem writeSlot_settles {spine : LogSpine} {segment : DHTShortArray RecordKey KeyPair} {head : ShortArrayHead}
    {slot : Nat} (h : AtStage codec log.spineKey owner dht values data (.writeSlot spine segment head slot)) :
    Settles (fun next after => Reaches codec log owner values data next after)
      (fun _ after => Untouched codec log owner after values)
      ((AppendStage.writeSlot spine segment head slot).advance codec log data) dht := by
  obtain ⟨keys, segments, last, hChosen, rfl, rfl⟩ := h
  have hRoom := hChosen.room
  have hLength : (page 255 last values).length = min 255 (values.length - 255 * last) := length_page ..
  have hSubkey : (page 255 last values).length + 1 < 256 := by omega
  refine (hChosen.setDhtValue_settles _ hSubkey data).bind ?_ fun _ _ h => h
  rintro _ after ⟨record, -, hOwner, hHolds, hRecords, hOpened⟩
  have hOwner' : (record.write ((page 255 last values).length + 1) data).owner = owner := hOwner
  refine settles_pure ⟨keys, segments, last, ⟨?_, hChosen.spine, hChosen.length, hChosen.target, ?_, hChosen.started,
    hRoom⟩, ?_, ?_⟩
  · exact hChosen.rewrite hOwner' (hHolds.write_free data) (fun _ _ => rfl) hRecords hOpened
  · rw [hOpened]
    exact hChosen.opened
  · rw [List.range_succ]
  · intro written hWritten
    rw [hRecords, Function.update_self] at hWritten
    rw [← Option.some.inj hWritten]
    exact Record.write_values_self ..

theorem writeHead_settles {spine : LogSpine} {segment : DHTShortArray RecordKey KeyPair} {head : ShortArrayHead}
    (h : AtStage codec log.spineKey owner dht values data (.writeHead spine segment head)) :
    Settles (fun next after => Reaches codec log owner values data next after)
      (fun _ after => Untouched codec log owner after values)
      ((AppendStage.writeHead spine segment head).advance codec log data) dht := by
  obtain ⟨keys, segments, last, hChosen, rfl, hStored⟩ := h
  have hRoom := hChosen.room
  have hShort : (page 255 last values).length < 255 := by
    rw [length_page]
    omega
  let written := codec.headToVec ⟨255, List.range ((page 255 last values).length + 1)⟩
  have hSubkey : 0 < 256 := by decide
  refine (hChosen.setDhtValue_settles "write head" hSubkey written).bind ?_ fun _ _ h => h
  rintro _ after ⟨record, hRecord, hOwner, hHolds, hRecords, hOpened⟩
  have hOwner' : (record.write 0 written).owner = owner := hOwner
  have hAppended := hHolds.append hShort data
  rw [record.write_eq_self (hStored record hRecord), ← page_append_of_room hChosen.started hRoom] at hAppended
  have hBefore (i : Nat) (hi : i < last) : page 255 i (values ++ [data]) = page 255 i values := by
    have hStarted := hChosen.started
    exact page_append_of_full (by omega) _
  refine settles_pure ⟨keys, segments, hChosen.rewrite hOwner' hAppended hBefore hRecords hOpened, ⟨?_, ?_⟩,
    hChosen.spine⟩
  · rw [hChosen.length]
    exact hRoom
  · have hStarted := hChosen.started
    rw [hChosen.length]
    omega

/-- The spine as it is stored. -/
def storedSpine (codec : Codec RecordKey) (log : DHTLog RecordKey KeyPair) (dht : Dht RecordKey KeyPair) :
    Option LogSpine := do
  let record ← dht.records log.spineKey
  let bytes ← record.values 0
  (codec.spineFromSlice bytes).toOption

/-- The entry is in a segment that the stored spine names already, and the new spine is not written. -/
def AppendStage.Tears (codec : Codec RecordKey) (log : DHTLog RecordKey KeyPair) (dht : Dht RecordKey KeyPair) :
    AppendStage RecordKey KeyPair → Prop
  | .writeSpine spine =>
    (∃ stored, storedSpine codec log dht = some stored ∧ stored.segments = spine.segments) ∧
      (dht.fault? ≠ none ∨
        maxValueSize < (codec.spineToVec { spine with totalCount := spine.totalCount + 1 }).length)
  | _ => False

/-- With the new entry in a new segment, the segments that the spine names are full without it. -/
theorem Underway.of_opened (h : Underway codec log.spineKey owner dht keys segments values.length (values ++ [data]))
    (hSpans : Spans 255 segments.length (values.length + 1)) (hOpened : keys ≠ segments) :
    Underway codec log.spineKey owner dht keys keys values.length values := by
  have hLength : keys.length < segments.length := by
    refine Nat.lt_of_le_of_ne h.named.length_le fun hSame => hOpened ?_
    exact h.named.eq_of_length hSame
  have hEnough := h.spans.enough
  have hNeeded := hSpans.needed
  refine Stored.underway { h.stored with segments := ?_ } h.opened
  intro i hi
  obtain ⟨record, hRecord, hOwner, hHolds⟩ := h.stored.segments i hi
  rw [page_append_of_full (by omega)] at hHolds
  exact ⟨record, hRecord, hOwner, hHolds⟩

theorem writeSpine_settles (hLaws : codec.Laws) {spine : LogSpine}
    (h : AtStage codec log.spineKey owner dht values data (.writeSpine spine))
    (hWhole : ¬(AppendStage.writeSpine spine).Tears codec log dht) :
    Settles (fun next after => Reaches codec log owner values data next after)
      (fun _ after => Untouched codec log owner after values)
      ((AppendStage.writeSpine spine).advance codec log data) dht := by
  obtain ⟨keys, segments, hUnderway, hSpans, rfl⟩ := h
  obtain ⟨record, hRecord, hOwner, hSubkeys, hSpine⟩ := hUnderway.spine
  have hOpen : dht.opened log.spineKey = some (some record.owner) := by rw [hUnderway.opened, hOwner]
  have hNext : { spineOf codec segments values.length with
      totalCount := (spineOf codec segments values.length).totalCount + 1 } =
        spineOf codec segments (values.length + 1) := spineOf_succ ..
  have hSubkey : 0 < record.subkeys := by omega
  have hAdvance : (AppendStage.writeSpine (spineOf codec segments values.length)).advance codec log data = (do
      setDhtValue "write spine" log.spineKey 0 (codec.spineToVec (spineOf codec segments (values.length + 1)))
      pure (.inr (UInt64.ofNat values.length))) := by
    rw [← hNext]
    rfl
  rw [hAdvance]
  refine (setDhtValue_settles "write spine" hRecord hOpen hSubkey).bind ?_ ?_
  · rintro _ _ ⟨-, hFits, rfl⟩
    have hLength : (values ++ [data]).length = values.length + 1 := by
      rw [List.length_append, List.length_singleton]
    refine settles_pure ⟨rfl, segments, Stored.underway ?_ hUnderway.opened⟩
    rw [hLength]
    exact Stored.write_spine hRecord hOwner hSubkeys hUnderway.held hSpans hUnderway.distinct hLaws hFits
  · rintro _ _ ⟨hRefused, rfl⟩
    have hOpened : keys ≠ segments := by
      rintro rfl
      refine hWhole ⟨⟨spineOf codec keys values.length, ?_, rfl⟩, ?_⟩
      · simp [storedSpine, hRecord, hSpine, hLaws.spine, Except.toOption]
      · rw [hNext]
        by_cases hFits : (codec.spineToVec (spineOf codec keys (values.length + 1))).length ≤ maxValueSize
        · exact .inl (hRefused hFits)
        · exact .inr (Nat.lt_of_not_le hFits)
    exact (hUnderway.of_opened hSpans hOpened).untouched (fun _ _ => rfl) rfl

/-- One call of an append, at any of its stages. -/
theorem advance_settles (hLaws : codec.Laws) (hWriter : log.ownerKeypair = some owner)
    {stage : AppendStage RecordKey KeyPair} (h : AtStage codec log.spineKey owner dht values data stage)
    (hWhole : ¬stage.Tears codec log dht) :
    Settles (fun next after => Reaches codec log owner values data next after)
      (fun _ after => Untouched codec log owner after values) (stage.advance codec log data) dht := by
  have hCall (hNone : stage.write? codec log data = none)
      (hSettles : Settles (fun next after => AtStage codec log.spineKey owner after values data next)
        (fun _ after => Untouched codec log owner after values) (stage.call codec log) dht) :
      Settles (fun next after => Reaches codec log owner values data next after)
        (fun _ after => Untouched codec log owner after values) (stage.advance codec log data) dht := by
    unfold AppendStage.advance
    rw [hNone]
    exact hSettles.bind (fun _ _ hStage => hStage) fun _ _ h => h
  cases stage with
  | readSpine => exact hCall rfl (readSpine_call_settles hLaws hWriter h)
  | createSegment writer spine => exact hCall rfl (createSegment_call_settles h)
  | writeEmptyHead spine segment => exact writeEmptyHead_settles h
  | openSegment writer spine latestKey => exact hCall rfl (openSegment_call_settles hLaws h)
  | readSegment writer spine recordKey => exact hCall rfl (readSegment_call_settles hLaws h)
  | readHead spine segment => exact hCall rfl (readHead_call_settles hLaws h)
  | writeSlot spine segment head slot => exact writeSlot_settles h
  | writeHead spine segment head => exact writeHead_settles h
  | writeSpine spine => exact writeSpine_settles hLaws h hWhole

end Calls

end Rekindle.Protocol
