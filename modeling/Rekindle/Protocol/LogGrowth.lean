import Rekindle.Protocol.LogFaults

/-! # Growing logs

A network may derive the key of a record from its schema and its owner. All segments of a log have
the schema and the owner of the first one.
-/
namespace Rekindle.Protocol
set_option autoImplicit false

open Fallible Pages

section Growth

variable {RecordKey KeyPair : Type} {codec : Codec RecordKey} (recordKeyOf : Nat → KeyPair → RecordKey)

/-- The surroundings in a network that derives record keys and fails no call, but for the creation of
a record that exists. The record that an append creates is a segment, of 256 subkeys and the
owner's. -/
def derived (world : World RecordKey KeyPair) (op : LogOp) : Event RecordKey KeyPair :=
  ⟨op, [], [(recordKeyOf 256 world.owner, world.owner)]⟩

/-- The network takes what the operation writes. -/
def LogOp.Fits : LogOp → Prop
  | .append data => data.length ≤ maxValueSize
  | _ => True

/-- The spine of a log with at most this segment is short enough for a value. -/
def ShortSpine (codec : Codec RecordKey) (segment : RecordKey) : Prop :=
  ∀ count ≤ 255, ∀ keys, keys = [] ∨ keys = [segment] →
    (codec.spineToVec (spineOf codec keys count)).length ≤ maxValueSize

/-- The log holds the values in at most one segment. -/
structure SingleSegment (codec : Codec RecordKey) (world : World RecordKey KeyPair) : Prop where
  stored : ∃ keys, Stored codec world.dht.records world.log.spineKey world.owner keys world.appended.length
      world.appended ∧
    (keys = [] ∧ world.dht.records (recordKeyOf 256 world.owner) = none ∨
      keys = [recordKeyOf 256 world.owner])
  opened : world.dht.opened world.log.spineKey = some world.log.ownerKeypair
  writer : ∀ writer, world.log.ownerKeypair = some writer → writer = world.owner

variable {recordKeyOf} [DecidableEq RecordKey] [DecidableEq KeyPair] {world : World RecordKey KeyPair}

variable (codec recordKeyOf) in
def World.nextDerived (world : World RecordKey KeyPair) (op : LogOp) : World RecordKey KeyPair :=
  world.next codec (derived recordKeyOf world op)

variable (codec recordKeyOf) in
/-- The log takes the entry. -/
def Takes (world : World RecordKey KeyPair) (data : Bytes) : Prop :=
  ∃ pos, (world.step codec (derived recordKeyOf world (.append data))).1 = .ok (.position pos)

omit [DecidableEq RecordKey] [DecidableEq KeyPair] in
theorem SingleSegment.length_le (h : SingleSegment recordKeyOf codec world) : world.appended.length ≤ 255 := by
  obtain ⟨keys, hStored, hKeys⟩ := h.stored
  have hEnough := hStored.spans.enough
  rcases hKeys with ⟨rfl, -⟩ | rfl <;> simp only [List.length_nil, List.length_singleton] at hEnough <;> omega

omit [DecidableEq RecordKey] [DecidableEq KeyPair] in
theorem SingleSegment.of_read (h : SingleSegment recordKeyOf codec world) {dht : Dht RecordKey KeyPair}
    (hRead : Read world.log.spineKey world.dht dht) :
    SingleSegment recordKeyOf codec { world with dht := dht } := by
  obtain ⟨hRecords, hOpened⟩ := hRead
  refine ⟨?_, hOpened.trans h.opened, h.writer⟩
  change ∃ keys, Stored codec dht.records _ _ _ _ _ ∧ (_ ∧ dht.records _ = none ∨ _)
  rw [hRecords]
  exact h.stored

/-- An append that the log has room for. -/
theorem SingleSegment.append (hLaws : codec.Laws) (hShort : ShortSpine codec (recordKeyOf 256 world.owner))
    (h : SingleSegment recordKeyOf codec world) (hWriter : world.log.ownerKeypair ≠ none)
    (hRoom : world.appended.length < 255) {data : Bytes} (hFits : data.length ≤ maxValueSize) :
    Takes codec recordKeyOf world data ∧
      SingleSegment recordKeyOf codec (world.nextDerived codec recordKeyOf (.append data)) := by
  obtain ⟨⟨keys, hStored, hKeys⟩, hOpen, hOwner⟩ := h
  obtain ⟨writer, hWriter⟩ := Option.ne_none_iff_exists'.mp hWriter
  obtain rfl := hOwner writer hWriter
  let event := derived recordKeyOf world (.append data)
  have hUnder : Stored codec (world.under event).records world.log.spineKey world.owner keys
    world.appended.length world.appended := hStored
  have hOpen' : (world.under event).opened world.log.spineKey = some (some world.owner) := by
    rw [← hWriter]
    exact hOpen
  have hPasses (n : Nat) : (world.under event).Passes n := fun _ _ => rfl
  -- what a returned append leaves
  have hTaken {after : Dht RecordKey KeyPair} {pos : UInt64}
      (hRun : (world.log.append codec data).run (world.under event) = .ok pos after)
      (hSame : after.opened world.log.spineKey = (world.under event).opened world.log.spineKey)
      (hNext : Stored codec after.records world.log.spineKey world.owner [recordKeyOf 256 world.owner]
        (world.appended.length + 1) (world.appended ++ [data])) :
      Takes codec recordKeyOf world data ∧
        SingleSegment recordKeyOf codec (world.nextDerived codec recordKeyOf (.append data)) := by
    have hStep : world.step codec event = (.ok (.position pos.toNat),
        { world with appended := world.appended ++ [data], dht := after }) := by
      rw [step_of_append rfl, hRun]
      rfl
    refine ⟨⟨_, congrArg Prod.fst hStep⟩, ?_⟩
    change SingleSegment recordKeyOf codec (world.step codec event).2
    rw [hStep]
    refine ⟨⟨_, ?_, .inr rfl⟩, hSame.trans hOpen, hOwner⟩
    rw [List.length_append, List.length_singleton]
    exact hNext
  by_cases hFull : world.appended.length % 255 = 0
  · have hNone : world.appended.length = 0 := by omega
    have hNoKeys : keys = [] := hStored.keys_eq_nil_iff.mpr hNone
    have hFree : world.dht.records (recordKeyOf 256 world.owner) = none := by
      rcases hKeys with ⟨-, hFree⟩ | hKeys
      · exact hFree
      · rw [hNoKeys] at hKeys
        cases hKeys
    have hOffer : (world.under event).offer? = some (recordKeyOf 256 world.owner) := rfl
    rcases (append_opening_settles hLaws hWriter hUnder hOpen' hFull data).cases with
      ⟨pos, after, hRun, -, -, hSame, key, hKey, -, hNext⟩ | ⟨e, after, hRun, hRefused, -⟩
    · obtain rfl := Option.some.inj (hOffer.symm.trans hKey)
      rw [hNoKeys, List.nil_append] at hNext
      exact hTaken hRun hSame hNext
    · refine absurd hFree (hRefused hFits (hPasses 8) (fun key hKey => ?_) _ hOffer)
      obtain rfl := Option.some.inj (hOffer.symm.trans hKey)
      rw [hNoKeys, List.nil_append]
      exact hShort _ (by omega) _ (.inr rfl)
  · have hKeys : keys = [recordKeyOf 256 world.owner] := by
      rcases hKeys with ⟨hNone, -⟩ | hKeys
      · have := hStored.keys_eq_nil_iff.mp hNone
        omega
      · exact hKeys
    subst hKeys
    have hLast : [recordKeyOf 256 world.owner].length = 0 + 1 := rfl
    rcases (append_within_settles hLaws hWriter hUnder hOpen' hFull hLast (by omega) (by omega) data).cases
      with ⟨pos, after, hRun, -, -, hSame, hNext⟩ | ⟨e, after, -, -, -, ⟨hRefused, -⟩ | ⟨-, -, hRefused, -⟩⟩
    · exact hTaken hRun hSame hNext
    · exact absurd (hPasses 6) (hRefused hFits)
    · exact absurd (hPasses 7) (hRefused (hShort _ (by omega) _ (.inr rfl)))

/-- The second segment would get the key of the first. -/
theorem SingleSegment.append_full (hLaws : codec.Laws) (h : SingleSegment recordKeyOf codec world)
    (hWriter : world.log.ownerKeypair ≠ none) (hFull : world.appended.length = 255) (data : Bytes) :
    ¬Takes codec recordKeyOf world data ∧
      SingleSegment recordKeyOf codec (world.nextDerived codec recordKeyOf (.append data)) := by
  obtain ⟨⟨keys, hStored, hKeys⟩, hOpen, hOwner⟩ := h
  obtain ⟨writer, hWriter⟩ := Option.ne_none_iff_exists'.mp hWriter
  obtain rfl := hOwner writer hWriter
  let event := derived recordKeyOf world (.append data)
  have hKeys : keys = [recordKeyOf 256 world.owner] := by
    rcases hKeys with ⟨hNone, -⟩ | hKeys
    · have := hStored.keys_eq_nil_iff.mp hNone
      omega
    · exact hKeys
  subst hKeys
  have hUnder : Stored codec (world.under event).records world.log.spineKey world.owner
    [recordKeyOf 256 world.owner] world.appended.length world.appended := hStored
  have hOpen' : (world.under event).opened world.log.spineKey = some (some world.owner) := by
    rw [← hWriter]
    exact hOpen
  have hOffer : (world.under event).offer? = some (recordKeyOf 256 world.owner) := rfl
  rcases (append_opening_settles hLaws hWriter hUnder hOpen' (by omega) data).cases with
    ⟨pos, after, -, -, -, -, key, hKey, hFree, -⟩ | ⟨e, after, hRun, -, -, hSame, hNext⟩
  · obtain rfl := Option.some.inj (hOffer.symm.trans hKey)
    exact absurd hFree (hUnder.known (List.mem_cons_of_mem _ List.mem_cons_self))
  · have hStep : world.step codec event = (.error e, { world with dht := after }) := by
      rw [step_of_append rfl, hRun]
      rfl
    constructor
    · rintro ⟨pos, hPos⟩
      have hError := (congrArg Prod.fst hStep).symm.trans hPos
      cases hError
    · change SingleSegment recordKeyOf codec (world.step codec event).2
      rw [hStep]
      exact ⟨⟨_, hNext, .inr rfl⟩, hSame.trans hOpen, hOwner⟩

omit [DecidableEq RecordKey] [DecidableEq KeyPair] in
theorem SingleSegment.settle {α : Type} (h : SingleSegment recordKeyOf codec world)
    {event : Event RecordKey KeyPair} {x : DhtM RecordKey KeyPair α} {value : α} {calm failed : Nat}
    (hSettles : Settles (fun a after => a = value ∧ after.failures = calm ∧ Read world.log.spineKey world.dht after)
      (fun _ after => after.failures = failed ∧ Read world.log.spineKey world.dht after) x (world.under event))
    (answer : α → Answer) :
    SingleSegment recordKeyOf codec (world.settle answer (fun _ => world) (x.run (world.under event))).2 := by
  rcases hSettles.cases with ⟨_, after, hRun, -, -, hRead⟩ | ⟨_, after, hRun, -, hRead⟩
  · rw [hRun]
    exact h.of_read hRead
  · rw [hRun]
    exact h.of_read hRead

/-- What an append that returned has changed, as the caller sees it. -/
theorem Takes.next {data : Bytes} (h : Takes codec recordKeyOf world data) :
    (world.nextDerived codec recordKeyOf (.append data)).appended = world.appended ++ [data] ∧
      (world.nextDerived codec recordKeyOf (.append data)).log = world.log := by
  obtain ⟨pos, hPos⟩ := h
  unfold World.nextDerived World.next
  rw [step_of_append rfl] at hPos ⊢
  cases hRun : (world.log.append codec data).run (world.under (derived recordKeyOf world (.append data))) with
  | ok _ after => exact ⟨rfl, rfl⟩
  | error e after =>
    rw [hRun] at hPos
    cases hPos

theorem SingleSegment.next (hLaws : codec.Laws) (hShort : ShortSpine codec (recordKeyOf 256 world.owner))
    (h : SingleSegment recordKeyOf codec world) (op : LogOp) (hFits : op.Fits) :
    SingleSegment recordKeyOf codec (world.nextDerived codec recordKeyOf op) := by
  obtain ⟨keys, hStored, hKeys⟩ := h.stored
  let event := derived recordKeyOf world op
  have hUnder : Stored codec (world.under event).records world.log.spineKey world.owner keys
    world.appended.length world.appended := hStored
  have hOpen : (world.under event).opened world.log.spineKey ≠ none := by
    change world.dht.opened world.log.spineKey ≠ none
    rw [h.opened]
    exact Option.some_ne_none _
  cases op with
  | append data =>
    by_cases hWriter : world.log.ownerKeypair = none
    · have hStep : world.nextDerived codec recordKeyOf (.append data) = { world with dht := world.under event } := by
        change (world.step codec event).2 = _
        rw [step_of_append rfl, DHTLog.append, hWriter]
        rfl
      rw [hStep]
      exact h.of_read ⟨rfl, rfl⟩
    · rcases Nat.lt_or_eq_of_le h.length_le with hRoom | hFull
      · exact (h.append hLaws hShort hWriter hRoom hFits).2
      · exact (h.append_full hLaws hWriter hFull data).2
  | get pos => exact h.settle (get_settles hLaws hUnder hOpen pos) .entry
  | len => exact h.settle (len_settles hLaws hUnder hOpen) _
  | tail count => exact h.settle (tail_settles hLaws hUnder hOpen count) .entries
  | reopen writable =>
    have hKnown : (world.under event).closed.records world.log.spineKey ≠ none :=
      hStored.known List.mem_cons_self
    change SingleSegment recordKeyOf codec (world.takeOver _ (EStateM.run _ (world.under event).closed)).2
    rcases (openAs_settles hLaws (if writable then some world.owner else none) hKnown).cases with
      ⟨_, after, hRun, rfl, -, hRecords, hOpened⟩ | ⟨_, after, hRun, -⟩
    · rw [hRun]
      refine ⟨⟨keys, ?_⟩, hOpened, ?_⟩
      · change Stored codec after.records _ _ _ _ _ ∧ (_ ∧ after.records _ = none ∨ _)
        rw [hRecords]
        exact ⟨hStored, hKeys⟩
      · intro writer hSome
        cases writable with
        | true => exact (Option.some.inj hSome).symm
        | false => cases hSome
    · rw [hRun]
      exact h.of_read ⟨rfl, rfl⟩

theorem singleSegment_of_create (hLaws : codec.Laws) {owner : KeyPair}
    (hShort : ShortSpine codec (recordKeyOf 256 owner)) (hKeys : recordKeyOf 1 owner ≠ recordKeyOf 256 owner)
    (dht : Dht RecordKey KeyPair) (hFaults : dht.faults = [])
    (hOffer : dht.supply = [(recordKeyOf 1 owner, owner)])
    (hFresh : ∀ subkeys, dht.records (recordKeyOf subkeys owner) = none) :
    ∃ log after, (DHTLog.create codec).run dht = .ok (log, owner) after ∧ log.ownerKeypair = some owner ∧
      SingleSegment recordKeyOf codec ⟨after, log, owner, []⟩ := by
  rcases (create_fresh_settles hLaws dht).cases with
    ⟨_, after, hRun, key, keypair, hHead, rfl, -, hOther, hOpened, hStored⟩ | ⟨_, after, -, hRefused, -⟩
  · rw [hOffer] at hHead
    cases hHead
    refine ⟨_, after, hRun, rfl, ⟨[], hStored, .inl ⟨rfl, ?_⟩⟩, hOpened, fun _ h => (Option.some.inj h).symm⟩
    exact (hOther _ hKeys.symm).trans (hFresh 256)
  · have hPasses : dht.Passes 3 := by
      intro i _
      rw [hFaults]
      rfl
    have hTaken := hRefused hPasses (hShort 0 (by decide) [] (.inl rfl)) (recordKeyOf 1 owner)
    rw [Dht.offer?, hOffer] at hTaken
    exact absurd (hFresh 1) (hTaken rfl)

theorem owner_next (world : World RecordKey KeyPair) (event : Event RecordKey KeyPair) :
    (world.next codec event).owner = world.owner := by
  unfold World.next World.step World.settle World.takeOver
  split <;> split <;> rfl

theorem singleSegment_of_run (hLaws : codec.Laws) {owner : KeyPair} (hShort : ShortSpine codec (recordKeyOf 256 owner))
    (h : SingleSegment recordKeyOf codec world) (hOwner : world.owner = owner) (ops : List LogOp)
    (hFits : ∀ op ∈ ops, op.Fits) :
    SingleSegment recordKeyOf codec (Runs.final (World.nextDerived codec recordKeyOf) world ops) ∧
      (Runs.final (World.nextDerived codec recordKeyOf) world ops).owner = owner := by
  refine Runs.Along.invariant (P := fun _ op => LogOp.Fits op)
    (fun world => SingleSegment recordKeyOf codec world ∧ world.owner = owner) ?_ ⟨h, hOwner⟩
    (Runs.Along.of_mem hFits world)
  rintro world op ⟨hSingle, rfl⟩ hOp
  exact ⟨hSingle.next hLaws hShort op hOp, owner_next world _⟩

/-- In a network that derives record keys, a log takes an entry when it holds fewer than 255, and
then only. -/
theorem takes_iff_room (hLaws : codec.Laws) {owner : KeyPair}
    (hShort : ShortSpine codec (recordKeyOf 256 owner)) (hKeys : recordKeyOf 1 owner ≠ recordKeyOf 256 owner)
    {dht : Dht RecordKey KeyPair} (hFaults : dht.faults = [])
    (hOffer : dht.supply = [(recordKeyOf 1 owner, owner)])
    (hFresh : ∀ subkeys, dht.records (recordKeyOf subkeys owner) = none) :
    ∃ log after, (DHTLog.create codec).run dht = .ok (log, owner) after ∧
      ∀ ops : List LogOp, (∀ op ∈ ops, op.Fits) →
        let reached := Runs.final (World.nextDerived codec recordKeyOf) ⟨after, log, owner, []⟩ ops
        reached.log.ownerKeypair ≠ none → ∀ data, data.length ≤ maxValueSize →
          (Takes codec recordKeyOf reached data ↔ reached.appended.length < 255) := by
  obtain ⟨log, after, hRun, -, hCreated⟩ := singleSegment_of_create hLaws hShort hKeys dht hFaults hOffer hFresh
  refine ⟨log, after, hRun, ?_⟩
  intro ops hOps reached hWriter data hFits
  have hReached := singleSegment_of_run hLaws hShort hCreated rfl ops hOps
  constructor
  · intro hTakes
    refine Nat.lt_of_le_of_ne hReached.1.length_le fun hFull => ?_
    exact (hReached.1.append_full hLaws hWriter hFull data).1 hTakes
  · intro hRoom
    refine (hReached.1.append hLaws ?_ hWriter hRoom hFits).1
    rw [hReached.2]
    exact hShort

end Growth

namespace Reference

def recordKeyOf (subkeys owner : Nat) : String := toString subkeys ++ "/" ++ toString owner

/-- A network that holds nothing, before a log is created. -/
def derivingNetwork : Dht String Nat := network [] [(recordKeyOf 1 7, 7)]

theorem shortSpine_recordKeyOf : ShortSpine codec (recordKeyOf 256 7) := by
  have hNone : ∀ count ≤ 255, (codec.spineToVec (spineOf codec [] count)).length ≤ maxValueSize := by
    decide +kernel
  have hOne : ∀ count ≤ 255,
      (codec.spineToVec (spineOf codec [recordKeyOf 256 7] count)).length ≤ maxValueSize := by
    decide +kernel
  rintro count hCount keys (rfl | rfl)
  · exact hNone count hCount
  · exact hOne count hCount

theorem reference_log_takes_iff_room :
    ∃ log after, (DHTLog.create codec).run derivingNetwork = .ok (log, 7) after ∧
      ∀ ops : List LogOp, (∀ op ∈ ops, op.Fits) →
        let reached := Runs.final (World.nextDerived codec recordKeyOf) ⟨after, log, 7, []⟩ ops
        reached.log.ownerKeypair ≠ none → ∀ data, data.length ≤ maxValueSize →
          (Takes codec recordKeyOf reached data ↔ reached.appended.length < 255) :=
  takes_iff_room codec_laws shortSpine_recordKeyOf (by decide) rfl rfl fun _ => rfl

/-- A log that has just been created, or one that nobody can write. -/
def newLog : World String Nat :=
  match (DHTLog.create codec).run derivingNetwork with
  | .ok (log, owner) dht => ⟨dht, log, owner, []⟩
  | .error _ dht => ⟨dht, ⟨"", none⟩, 0, []⟩

/-- The log after as many appends as its first segment takes. -/
def fullLog : World String Nat :=
  Runs.final (World.nextDerived codec recordKeyOf) newLog (List.replicate 255 (.append [1]))

theorem length_of_replicate {world : World String Nat} (h : SingleSegment recordKeyOf codec world)
    (hOwner : world.owner = 7) (hWriter : world.log.ownerKeypair ≠ none) {n : Nat}
    (hRoom : world.appended.length + n ≤ 255) :
    let reached := Runs.final (World.nextDerived codec recordKeyOf) world (List.replicate n (.append [1]))
    reached.appended.length = world.appended.length + n ∧ reached.log = world.log := by
  induction n generalizing world with
  | zero => exact ⟨rfl, rfl⟩
  | succ n ih =>
    have hShort : ShortSpine codec (recordKeyOf 256 world.owner) := by
      rw [hOwner]
      exact shortSpine_recordKeyOf
    have hFits : ([1] : Bytes).length ≤ maxValueSize := by decide
    obtain ⟨hTakes, hNext⟩ := h.append codec_laws hShort hWriter (by omega) hFits
    obtain ⟨hAppended, hLog⟩ := hTakes.next
    have hLength : (world.nextDerived codec recordKeyOf (.append [1])).appended.length = world.appended.length + 1 := by
      rw [hAppended, List.length_append, List.length_singleton]
    have hRest := ih hNext ((owner_next world _).trans hOwner) (by rwa [hLog]) (by omega)
    rw [hLength, hLog] at hRest
    exact ⟨hRest.1.trans (by omega), hRest.2⟩

/-- The append of the 256th entry fails. -/
theorem full_log_takes_nothing : fullLog.log.ownerKeypair = some 7 ∧ fullLog.appended.length = 255 ∧
    ¬Takes codec recordKeyOf fullLog [1] := by
  have hDistinct : recordKeyOf 1 7 ≠ recordKeyOf 256 7 := by decide
  obtain ⟨log, after, hRun, hWriter, hCreated⟩ := singleSegment_of_create codec_laws shortSpine_recordKeyOf hDistinct
    derivingNetwork rfl rfl fun _ => rfl
  have hNew : newLog = ⟨after, log, 7, []⟩ := by
    unfold newLog
    rw [hRun]
  have hRoom : (⟨after, log, 7, []⟩ : World String Nat).appended.length + 255 ≤ 255 := Nat.le_refl _
  obtain ⟨hLength, hLog⟩ := length_of_replicate hCreated rfl (by simp [hWriter]) hRoom
  have hFits : ∀ op ∈ List.replicate 255 (LogOp.append [1]), op.Fits := by
    intro op hOp
    obtain rfl := List.eq_of_mem_replicate hOp
    exact (by decide : [1].length ≤ maxValueSize)
  have hReached := singleSegment_of_run codec_laws shortSpine_recordKeyOf hCreated rfl _ hFits
  rw [← hNew] at hLength hLog hReached
  have hFull : fullLog.log = newLog.log := hLog
  refine ⟨by rw [hFull, hNew, hWriter], hLength, ?_⟩
  refine (hReached.1.append_full codec_laws ?_ hLength [1]).1
  rw [hLog, hNew, hWriter]
  exact Option.some_ne_none _

end Reference

end Rekindle.Protocol
