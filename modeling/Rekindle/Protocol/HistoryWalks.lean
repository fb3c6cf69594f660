import Rekindle.Protocol.ChannelHistory

/-! # When reading the history ends

The links between batches are what other parties have written. The loop ends unless it comes round to a batch
again with no message read in between.
-/
namespace Rekindle.Protocol
set_option autoImplicit false

open Fallible

variable {KeyPair : Type} (format : BatchFormat) (dht : Dht String KeyPair)

/-- What a read of the record gives if the network does not fail it. -/
def batchAt (key : String) : Except ProtocolError MessageBatch :=
  match dht.opened key, dht.records key with
  | some _, some record =>
    if 0 < record.subkeys then decodeBatch format (record.values 0) else .error (labelled "get_dht_value" "")
  | _, _ => .error (labelled "get_dht_value" "")

def prevKeyAt (key : String) : Option String := (batchAt format dht key).toOption.bind MessageBatch.prevRecordKey

def batchSizeAt (key : String) : Nat := (batchAt format dht key).toOption.elim 0 fun batch => batch.messages.length

section
variable {format dht} {key : String} {limit : Nat} {cursor : HistoryCursor}

theorem readBatch_run_eq (hFault : dht.fault? = none) : (readBatch format key).run dht =
    match batchAt format dht key with
    | .ok batch => .ok batch dht.next
    | .error e => .error e dht.next := by
  have hReach (error : String → ProtocolError) : (reach error).run dht = .ok () dht.next := by
    have hSettles := @reach_settles _ _ dht error
    rcases hSettles.cases with ⟨_, _, hRun, -, rfl⟩ | ⟨_, _, _, hFailed, -⟩
    · exact hRun
    · exact absurd hFault hFailed
  rw [readBatch, getDhtValue, bind_assoc, run_bind_of_ok _ (hReach _), batchAt]
  have hOpened : dht.next.opened key = dht.opened key := rfl
  have hRecords : dht.next.records key = dht.records key := rfl
  have hGet : (get : DhtM String KeyPair _).run dht.next = .ok dht.next dht.next := rfl
  rw [bind_assoc, run_bind_of_ok _ hGet, hOpened, hRecords]
  cases dht.opened key with
  | none => rfl
  | some writer =>
    cases dht.records key with
    | none => rfl
    | some record =>
      dsimp only
      split
      · rw [pure_bind]
        cases decodeBatch format (record.values 0) <;> rfl
      · rfl

theorem length_pushUntil {all rest : List ChannelMessage} (h : all.length < limit) :
    (pushUntil limit all rest).length = min limit (all.length + rest.length) := by
  rw [pushUntil_eq h, List.length_append, List.length_take]
  omega

/-- A round that reads a batch. -/
theorem readHistory_of_open {all : List ChannelMessage} (hOpen : ¬limit ≤ all.length) :
    readHistory format limit (⟨all, some key⟩, dht) = match (readBatch format key).run dht with
      | .ok batch read =>
        .inl (⟨pushUntil limit all batch.messages.reverse, batch.prevRecordKey⟩, read)
      | .error e read => .inr (.error e read) := by
  simp only [readHistory, Loops.stateful, historyRound, if_neg hOpen]
  cases hRead : (readBatch format key).run dht with
  | ok batch read =>
    rw [run_bind_of_ok _ hRead]
    rfl
  | error e read => rw [run_bind_of_error _ hRead]

/-- A round that goes on has read a batch. -/
theorem readHistory_eq_inl_iff (hFault : dht.fault? = none) {next : HistoryCursor × Dht String KeyPair} :
    readHistory format limit (cursor, dht) = .inl next ↔
      ∃ key batch, cursor.currentKey = some key ∧ cursor.allMessages.length < limit ∧
        batchAt format dht key = .ok batch ∧
        next = (⟨pushUntil limit cursor.allMessages batch.messages.reverse, batch.prevRecordKey⟩, dht.next) := by
  obtain ⟨all, current⟩ := cursor
  cases current with
  | none =>
    rw [readHistory_of_last]
    constructor
    · rintro ⟨⟩
    · rintro ⟨_, _, hKey, -⟩
      cases hKey
  | some key =>
    by_cases hFull : limit ≤ all.length
    · rw [readHistory_of_full hFull]
      constructor
      · rintro ⟨⟩
      · rintro ⟨_, _, -, hOpen, -⟩
        exact absurd hFull (Nat.not_le.mpr hOpen)
    · rw [readHistory_of_open hFull, readBatch_run_eq hFault]
      cases hBatch : batchAt format dht key with
      | error e =>
        constructor
        · rintro ⟨⟩
        · rintro ⟨_, batch, hKey, -, hOk, -⟩
          cases hKey
          cases hBatch.symm.trans hOk
      | ok batch =>
        constructor
        · rintro ⟨⟩
          exact ⟨key, batch, rfl, Nat.lt_of_not_le hFull, hBatch, rfl⟩
        · rintro ⟨_, found, hKey, -, hOk, rfl⟩
          cases hKey
          cases hBatch.symm.trans hOk
          rfl

/-! ## The walk of the loop -/

variable {latest : String}

/-- After some rounds the loop is as far along the links, with the messages met so far. -/
structure Walked (format : BatchFormat) (dht : Dht String KeyPair) (latest : String) (limit n : Nat)
    (state : HistoryCursor × Dht String KeyPair) : Prop where
  current : state.1.currentKey = Loops.walk (prevKeyAt format dht) latest n
  length : state.1.allMessages.length = min limit (Loops.gathered (prevKeyAt format dht) (batchSizeAt format dht) latest n)
  records : state.2.records = dht.records
  opened : state.2.opened = dht.opened
  quiet : Quiet state.2

theorem batchAt_congr {other : Dht String KeyPair} (hRecords : other.records = dht.records)
    (hOpened : other.opened = dht.opened) : batchAt format other key = batchAt format dht key := by
  rw [batchAt, batchAt, hRecords, hOpened]

/-- A round takes the walk one step further. -/
theorem Walked.step {n : Nat} {state : HistoryCursor × Dht String KeyPair} (h : Walked format dht latest limit n state)
    {batch : MessageBatch} (hKey : state.1.currentKey = some key) (hOpen : state.1.allMessages.length < limit)
    (hBatch : batchAt format dht key = .ok batch) :
    Walked format dht latest limit (n + 1)
      (⟨pushUntil limit state.1.allMessages batch.messages.reverse, batch.prevRecordKey⟩, state.2.next) := by
  have hWalk := h.current.symm.trans hKey
  have hLink : prevKeyAt format dht key = batch.prevRecordKey := by rw [prevKeyAt, hBatch]; rfl
  have hSize : batchSizeAt format dht key = batch.messages.length := by rw [batchSizeAt, hBatch]; rfl
  have hLength := h.length
  refine ⟨?_, ?_, h.records, h.opened, h.quiet.next⟩
  · rw [Loops.walk, hWalk, Option.bind_some, hLink]
  · rw [length_pushUntil hOpen, Loops.gathered, hWalk, Option.elim_some, hSize, List.length_reverse]
    omega

theorem walked_of_rounds (hQuiet : Quiet dht) {n : Nat} {state : HistoryCursor × Dht String KeyPair}
    (h : Loops.rounds (readHistory format limit) n (historyStart latest, dht) = .inl state) :
    Walked format dht latest limit n state := by
  induction n generalizing state with
  | zero =>
    cases h
    exact ⟨rfl, (Nat.min_zero limit).symm, rfl, rfl, hQuiet⟩
  | succ n ih =>
    rw [Loops.rounds_last] at h
    cases hBefore : Loops.rounds (readHistory format limit) n (historyStart latest, dht) with
    | inr result =>
      rw [hBefore] at h
      cases h
    | inl before =>
      rw [hBefore] at h
      have hWalked := ih hBefore
      obtain ⟨key, batch, hKey, hOpen, hBatch, rfl⟩ := (readHistory_eq_inl_iff hWalked.quiet.fault?).mp h
      rw [batchAt_congr hWalked.records hWalked.opened] at hBatch
      exact hWalked.step hKey hOpen hBatch

/-- On a network that fails no call the loop runs forever just when the walk goes on below the limit. -/
theorem not_terminates_iff_goesOn (hQuiet : Quiet dht) :
    ¬Loops.Terminates (readHistory format limit) (historyStart latest, dht) ↔
      Loops.GoesOn (prevKeyAt format dht) (batchSizeAt format dht) latest limit := by
  rw [Loops.not_terminates_iff]
  constructor
  · intro hForever n
    obtain ⟨state, hState⟩ := hForever n
    obtain ⟨next, hNext⟩ := hForever (n + 1)
    rw [Loops.rounds_last, hState] at hNext
    have hWalked := walked_of_rounds hQuiet hState
    obtain ⟨key, batch, hKey, hOpen, -⟩ := (readHistory_eq_inl_iff hWalked.quiet.fault?).mp hNext
    have hLength := hWalked.length
    refine ⟨?_, by omega⟩
    rw [← hWalked.current, hKey]
    exact Option.some_ne_none key
  · intro hGoesOn n
    induction n with
    | zero => exact ⟨_, rfl⟩
    | succ n ih =>
      obtain ⟨state, hState⟩ := ih
      have hWalked := walked_of_rounds hQuiet hState
      obtain ⟨hSome, hBelow⟩ := hGoesOn n
      obtain ⟨key, hKey⟩ := Option.ne_none_iff_exists'.mp hSome
      have hNext := (hGoesOn (n + 1)).1
      rw [Loops.walk, hKey, Option.bind_some, prevKeyAt] at hNext
      cases hBatch : batchAt format dht key with
      | error e =>
        rw [hBatch] at hNext
        exact absurd rfl hNext
      | ok batch =>
        have hOpen : state.1.allMessages.length < limit := by
          rw [hWalked.length]
          omega
        rw [Loops.rounds_last, hState]
        refine ⟨_, (readHistory_eq_inl_iff hWalked.quiet.fault?).mpr ⟨key, batch, hWalked.current.trans hKey, hOpen, ?_, rfl⟩⟩
        rw [batchAt_congr hWalked.records hWalked.opened, hBatch]

/-! ## Faults and lengths -/

/-- A failed call ends the loop. -/
theorem fault?_of_goes_on {next : HistoryCursor × Dht String KeyPair}
    (h : readHistory format limit (cursor, dht) = .inl next) : dht.fault? = none ∧ next.2 = dht.next := by
  have hFault : dht.fault? = none := by
    obtain ⟨all, current⟩ := cursor
    cases current with
    | none => cases h
    | some key =>
      by_cases hFull : limit ≤ all.length
      · rw [readHistory_of_full hFull] at h
        cases h
      · by_contra hSome
        rcases (@reach_settles _ _ dht (labelled "get_dht_value")).cases with ⟨_, _, _, hNone, -⟩ | ⟨e, failed, hRun, -⟩
        · exact hSome hNone
        · have hGet : (getDhtValue "get_dht_value" key 0).run dht = .error e failed := run_bind_of_error _ hRun
          have hRead : (readBatch format key).run dht = .error e failed := run_bind_of_error _ hGet
          rw [readHistory_of_open hFull, hRead] at h
          cases h
  obtain ⟨_, _, _, _, _, rfl⟩ := (readHistory_eq_inl_iff hFault).mp h
  exact ⟨hFault, rfl⟩

theorem terminates_of_fault {faults : List (Option String)} (hFaults : dht.faults = faults)
    (h : ∃ fault ∈ faults, fault ≠ none) : Loops.Terminates (readHistory format limit) (cursor, dht) := by
  induction faults generalizing dht cursor with
  | nil =>
    obtain ⟨_, hFault, -⟩ := h
    cases hFault
  | cons fault faults ih =>
    cases hRound : readHistory format limit (cursor, dht) with
    | inr result => exact ⟨result, Loops.returns_of_body hRound⟩
    | inl next =>
      obtain ⟨hNone, hNext⟩ := fault?_of_goes_on hRound
      obtain ⟨other, hOther, hSome⟩ := h
      rw [Dht.fault?, hFaults] at hNone
      have hLater : other ∈ faults := by
        rcases List.mem_cons.mp hOther with rfl | hLater
        · exact absurd hNone hSome
        · exact hLater
      have hRest : next.2.faults = faults := by
        rw [hNext]
        exact congrArg List.tail hFaults
      obtain ⟨result, hReturns⟩ := ih hRest ⟨other, hLater, hSome⟩
      exact ⟨result, (Loops.returns_step hRound).mpr hReturns⟩

theorem readHistory_length_le (hStart : cursor.allMessages.length ≤ limit) {messages : List ChannelMessage}
    {final : Dht String KeyPair} (h : Loops.Returns (readHistory format limit) (cursor, dht) (.ok messages final)) :
    messages.length ≤ limit := by
  refine h.of_invariant (I := fun state => state.1.allMessages.length ≤ limit)
    (Q := fun result => ∀ messages final, result = .ok messages final → messages.length ≤ limit) ?_ ?_ hStart messages
    final rfl
  · rintro ⟨cursor, dht⟩ next hLength hRound
    obtain ⟨hFault, -⟩ := fault?_of_goes_on hRound
    obtain ⟨_, _, _, hOpen, -, rfl⟩ := (readHistory_eq_inl_iff hFault).mp hRound
    dsimp only
    rw [length_pushUntil hOpen]
    exact Nat.min_le_left _ _
  · rintro ⟨⟨all, current⟩, dht⟩ result hLength hRound messages final rfl
    cases current with
    | none =>
      cases hRound
      exact hLength
    | some key =>
      by_cases hFull : limit ≤ all.length
      · rw [readHistory_of_full hFull] at hRound
        cases hRound
        exact hLength
      · rw [readHistory_of_open hFull] at hRound
        split at hRound <;> cases hRound

/-- The walk goes on only from records that there are. -/
theorem record_of_goesOn (h : Loops.GoesOn (prevKeyAt format dht) (batchSizeAt format dht) latest limit) (n : Nat) :
    ∀ place ∈ Loops.walk (prevKeyAt format dht) latest n, dht.records place ≠ none := by
  intro place hPlace hNone
  have hNext := (h (n + 1)).1
  have hBatch : batchAt format dht place = .error (labelled "get_dht_value" "") := by
    rw [batchAt, hNone]
    cases dht.opened place <;> rfl
  rw [Loops.walk, hPlace, Option.bind_some, prevKeyAt, hBatch] at hNext
  exact hNext rfl

/-- Reading the history ends, with messages up to the limit, unless the links come round with nothing read. -/
theorem readHistory_bounded_iff (hFinite : {key | dht.records key ≠ none}.Finite) (latest : String) (limit : Nat) :
    (Loops.Terminates (readHistory format limit) (historyStart latest, dht) ∧
      ∀ messages final, Loops.Returns (readHistory format limit) (historyStart latest, dht) (.ok messages final) →
        messages.length ≤ limit) ↔
      (∃ fault ∈ dht.faults, fault ≠ none) ∨
        ¬Loops.Circles (prevKeyAt format dht) (batchSizeAt format dht) latest limit := by
  have hLength (messages : List ChannelMessage) (final : Dht String KeyPair)
      (h : Loops.Returns (readHistory format limit) (historyStart latest, dht) (.ok messages final)) :
      messages.length ≤ limit := readHistory_length_le (Nat.zero_le limit) h
  rw [and_iff_left hLength]
  by_cases hFault : ∃ fault ∈ dht.faults, fault ≠ none
  · exact iff_of_true (terminates_of_fault rfl hFault) (.inl hFault)
  · have hQuiet : Quiet dht := by
      intro fault hMem
      by_contra hSome
      exact hFault ⟨fault, hMem, hSome⟩
    rw [or_iff_right hFault, iff_not_comm, not_terminates_iff_goesOn hQuiet]
    exact ⟨Loops.Circles.goesOn, fun h => h.circles hFinite (record_of_goesOn h)⟩

end

namespace Reference

/-- A record with one batch, open for its owner. -/
def oneRecord (batch : MessageBatch) : Dht String Nat :=
  { network [] [] with
    records := fun key => if key = "a" then some ⟨7, 1, fun _ => some (jsonBatches.toVec batch)⟩ else none
    opened := fun key => if key = "a" then some (some 7) else none }

theorem oneRecord_finite (batch : MessageBatch) : {key | (oneRecord batch).records key ≠ none}.Finite := by
  refine (Set.finite_singleton "a").subset fun key hKey => ?_
  by_contra hOther
  exact hKey (if_neg hOther)

theorem batchAt_oneRecord (batch : MessageBatch) : batchAt jsonBatches (oneRecord batch) "a" = .ok batch := by
  change decodeBatch jsonBatches (some (jsonBatches.toVec batch)) = _
  rw [decodeBatch, jsonBatches_readsBack]
  rfl

theorem readHistory_bounded_iff_single :
    (Loops.Terminates (readHistory jsonBatches 10) (historyStart "a", oneRecord ⟨none, [sampleMessage "1"]⟩) ∧
      ∀ messages final, Loops.Returns (readHistory jsonBatches 10)
          (historyStart "a", oneRecord ⟨none, [sampleMessage "1"]⟩) (.ok messages final) → messages.length ≤ 10) ↔
      (∃ fault ∈ (oneRecord ⟨none, [sampleMessage "1"]⟩).faults, fault ≠ none) ∨
        ¬Loops.Circles (prevKeyAt jsonBatches (oneRecord ⟨none, [sampleMessage "1"]⟩))
          (batchSizeAt jsonBatches (oneRecord ⟨none, [sampleMessage "1"]⟩)) "a" 10 :=
  readHistory_bounded_iff (oneRecord_finite _) "a" 10

/-- An empty batch that links to its own record is read forever. -/
theorem self_link_never_ends :
    ¬Loops.Terminates (readHistory jsonBatches 10) (historyStart "a", oneRecord ⟨some "a", []⟩) := by
  have hBatch := batchAt_oneRecord ⟨some "a", []⟩
  have hLink : prevKeyAt jsonBatches (oneRecord ⟨some "a", []⟩) "a" = some "a" := by
    rw [prevKeyAt, hBatch]
    rfl
  have hSize : batchSizeAt jsonBatches (oneRecord ⟨some "a", []⟩) "a" = 0 := by
    rw [batchSizeAt, hBatch]
    rfl
  rw [not_terminates_iff_goesOn (fun fault hFault => by cases hFault)]
  refine Loops.Circles.goesOn ⟨0, 1, Nat.one_pos, Option.some_ne_none _, hLink, ?_, Nat.succ_pos 9⟩
  exact (Nat.zero_add _).trans hSize

end Reference

end Rekindle.Protocol
