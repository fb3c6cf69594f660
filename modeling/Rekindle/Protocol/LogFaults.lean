import Rekindle.Protocol.Reference

/-! # Failed appends

What an append that fails leaves behind. Only one failure does harm: an entry that is written to a
segment of the log and that the spine never counts.
-/
namespace Rekindle.Protocol
set_option autoImplicit false

open Fallible Pages

section Faults

variable {RecordKey KeyPair : Type} {codec : Codec RecordKey}

/-- The last segment holds one entry that the spine does not count. -/
structure Torn (codec : Codec RecordKey) (world : World RecordKey KeyPair) (data : Bytes) : Prop where
  stored : ∃ keys, Stored codec world.dht.records world.log.spineKey world.owner keys world.appended.length
    (world.appended ++ [data])
  opened : world.dht.opened world.log.spineKey = some (some world.owner)
  writer : world.log.ownerKeypair = some world.owner
  part : world.appended.length % 255 ≠ 0
  fits : world.SpineFits codec

variable [DecidableEq RecordKey] [DecidableEq KeyPair] {world : World RecordKey KeyPair}
  {event : Event RecordKey KeyPair}

theorem step_of_append {data : Bytes} (hOp : event.op = .append data) :
    world.step codec event = world.settle (fun pos => .position pos.toNat)
      (fun _ => { world with appended := world.appended ++ [data] })
      ((world.log.append codec data).run (world.under event)) := by
  unfold World.step
  rw [hOp]

/-- An append that the network cuts off tears the log. -/
theorem torn_of_cutOff (hLaws : codec.Laws) (hIntact : Intact codec world) {e : ProtocolError}
    (hError : (world.step codec event).1 = .error e) (hCutOff : CutOff codec world event)
    (hFits : world.SpineFits codec) : ∃ data, Torn codec (world.next codec event) data := by
  obtain ⟨⟨keys, hStored⟩, hOpen, hWriter⟩ := hIntact
  obtain ⟨data, hOp, hKeypair, hPart, hSize, hSix, -⟩ := hCutOff
  obtain ⟨writer, hKeypair⟩ := Option.ne_none_iff_exists'.mp hKeypair
  obtain rfl := hWriter writer hKeypair
  have hUnder : Stored codec (world.under event).records world.log.spineKey world.owner keys
    world.appended.length world.appended := hStored
  have hOpen' : (world.under event).opened world.log.spineKey = some (some world.owner) := by
    rw [← hKeypair]
    exact hOpen
  obtain ⟨last, hLast, hStarted, hRoom, -⟩ := hStored.spans.of_room hPart
  unfold World.next
  rw [step_of_append hOp] at hError ⊢
  rcases (append_within_settles hLaws hKeypair hUnder hOpen' hPart hLast hStarted hRoom data).cases with
    ⟨_, after, hRun, -⟩ | ⟨e, after, hRun, -, hSame, ⟨hRefused, -⟩ | ⟨-, -, -, hTorn⟩⟩
  · rw [hRun] at hError
    cases hError
  · exact absurd hSix (hRefused hSize)
  · rw [hRun]
    have hStill : Stored codec after.records world.log.spineKey world.owner keys world.appended.length
      (world.appended ++ [data]) := hTorn
    have hStillFits : ({ world with dht := after } : World RecordKey KeyPair).SpineFits codec ↔
        (codec.spineToVec (spineOf codec keys (world.appended.length + 1))).length ≤ maxValueSize :=
      spineFits_iff hLaws hStill
    exact ⟨data, ⟨keys, hStill⟩, hSame.trans hOpen', hKeypair, hPart,
      hStillFits.mpr ((spineFits_iff hLaws hStored).mp hFits)⟩

/-- An operation whose calls all go through. -/
def undisturbed (op : LogOp) : Event RecordKey KeyPair := ⟨op, [], []⟩

omit [DecidableEq RecordKey] [DecidableEq KeyPair] in
theorem passes_undisturbed (world : World RecordKey KeyPair) (op : LogOp) (n : Nat) :
    (world.under (undisturbed op)).Passes n := fun _ _ => rfl

/-! ## Reading undisturbed -/

/-- Where no fault is waiting, none comes. -/
def StaysQuiet (before after : Dht RecordKey KeyPair) : Prop :=
  before.faults = [] → after.faults = [] ∧ after.failures = before.failures

instance : Std.Refl (@StaysQuiet RecordKey KeyPair) := ⟨fun _ h => ⟨h, rfl⟩⟩

instance : IsTrans (Dht RecordKey KeyPair) StaysQuiet := ⟨fun _ _ _ hFirst hSecond h =>
  have hMiddle := hFirst h
  ⟨(hSecond hMiddle.1).1, (hSecond hMiddle.1).2.trans hMiddle.2⟩⟩

section Quiet

omit [DecidableEq RecordKey] [DecidableEq KeyPair]

theorem staysQuiet_reach (error : String → ProtocolError) :
    Keeps StaysQuiet (reach error : DhtM RecordKey KeyPair Unit) := by
  intro dht hQuiet
  simp [reach, EStateM.run, Dht.fault?, hQuiet, Dht.next]

theorem staysQuiet_getDhtValue (label : String) (key : RecordKey) (subkey : Nat) :
    Keeps StaysQuiet (getDhtValue label key subkey : DhtM RecordKey KeyPair (Option Bytes)) := by
  refine (staysQuiet_reach _).bind fun _ => keeps_get.bind fun dht => ?_
  split
  · split
    · exact keeps_pure _
    · exact keeps_throw _
  · exact keeps_throw _

theorem staysQuiet_readHeadRaw (codec : Codec RecordKey) (key : RecordKey) :
    Keeps StaysQuiet (readHeadRaw codec key : DhtM RecordKey KeyPair ShortArrayHead) := by
  refine (staysQuiet_getDhtValue _ _ _).bind fun value => ?_
  cases value with
  | none => exact keeps_throw _
  | some bytes => exact keeps_ofExcept _

theorem staysQuiet_readSpine (codec : Codec RecordKey) (log : DHTLog RecordKey KeyPair) :
    Keeps StaysQuiet (log.readSpine codec) := by
  refine (staysQuiet_getDhtValue _ _ _).bind fun value => ?_
  cases value with
  | none => exact keeps_throw _
  | some bytes => exact keeps_ofExcept _

theorem staysQuiet_arrayGet (codec : Codec RecordKey) (array : DHTShortArray RecordKey KeyPair) (index : Nat) :
    Keeps StaysQuiet (array.get codec index) := by
  refine (staysQuiet_readHeadRaw _ _).bind fun head => ?_
  split
  · exact keeps_pure _
  · exact staysQuiet_getDhtValue _ _ _

end Quiet

omit [DecidableEq KeyPair] in
theorem staysQuiet_open (codec : Codec RecordKey) (key : String) (writer : Option KeyPair) :
    Keeps StaysQuiet (DHTShortArray.open codec key writer) := by
  refine (keeps_ofExcept _).bind fun recordKey => Keeps.bind ?_ fun _ => ?_
  · refine (staysQuiet_reach _).bind fun _ dht hQuiet => ?_
    by_cases hKnown : (dht.records recordKey).isSome
    · simp [hKnown, EStateM.run_bind, EStateM.run_get, EStateM.run_set, hQuiet, Dht.withOpened]
    · simp [hKnown, misuse, EStateM.run_bind, EStateM.run_get, hQuiet]
  · exact (staysQuiet_readHeadRaw _ _).bind fun _ => keeps_pure _

omit [DecidableEq KeyPair] in
theorem staysQuiet_get (codec : Codec RecordKey) (log : DHTLog RecordKey KeyPair) (pos : UInt64) :
    Keeps StaysQuiet (log.get codec pos) := by
  refine (staysQuiet_readSpine _ _).bind fun spine => ?_
  split
  · exact keeps_pure _
  · split
    · exact keeps_throw _
    · split
      · exact keeps_pure _
      · exact (staysQuiet_open _ _ _).bind fun _ => staysQuiet_arrayGet _ _ _

/-! ## Torn logs -/

/-- A torn segment that is full takes no entry any more. -/
theorem Torn.refuses (hLaws : codec.Laws) {data : Bytes} (h : Torn codec world data)
    (hFull : (world.appended.length + 1) % 255 = 0) : ¬ActsAs codec world world.list := by
  obtain ⟨⟨keys, hStored⟩, hOpen, hWriter, hPart, -⟩ := h
  obtain ⟨last, hLast, hStarted, hRoom, -⟩ := hStored.spans.of_room hPart
  intro hActs
  have hUnder : Stored codec (world.under (undisturbed (.append []))).records world.log.spineKey world.owner keys
    world.appended.length (world.appended ++ [data]) := hStored
  have hLong : 255 * (last + 1) ≤ (world.appended ++ [data]).length := by
    rw [List.length_append, List.length_singleton]
    omega
  rcases (append_full_settles hLaws hWriter hUnder hOpen hPart hLast hLong (passes_undisturbed world _ 4) []).cases with
    ⟨_, _, -, hFalse⟩ | ⟨e, after, hRun, hFailures⟩
  · exact hFalse
  · have hStep : world.step codec (undisturbed (.append [])) = (.error e, { world with dht := after }) := by
      rw [step_of_append rfl, hRun]
      rfl
    have hCalm : Calm codec world [undisturbed (.append [])] := by
      refine ⟨?_, trivial⟩
      have hNext : world.next codec (undisturbed (.append [])) = { world with dht := after } :=
        congrArg Prod.snd hStep
      exact (congrArg (·.dht.failures) hNext).trans hFailures
    have hReplies := hActs _ hCalm
    rw [World.replies, hStep] at hReplies
    have hFirst := (List.cons.inj hReplies).1
    simp [World.list, ListLog.step, hWriter, undisturbed] at hFirst

/-- A torn segment with room hands out the wrong entry after the next append. -/
theorem Torn.misplaces (hLaws : codec.Laws) {data : Bytes} (h : Torn codec world data)
    (hRoom : (world.appended.length + 1) % 255 ≠ 0) : ¬ActsAs codec world world.list := by
  obtain ⟨⟨keys, hStored⟩, hOpen, hWriter, hPart, hFits⟩ := h
  obtain ⟨last, hLast, hStarted, hShort, -⟩ := hStored.spans.of_room hPart
  obtain ⟨other, hOther, hSize⟩ : ∃ other : Bytes, other ≠ data ∧ other.length ≤ maxValueSize := by
    rcases eq_or_ne data [] with rfl | hData
    · exact ⟨[0], by simp, by decide⟩
    · exact ⟨[], hData.symm, by decide⟩
  have hUnder : Stored codec (world.under (undisturbed (.append other))).records world.log.spineKey world.owner
    keys world.appended.length (world.appended ++ [data]) := hStored
  have hLength : (world.appended ++ [data]).length = world.appended.length + 1 := by
    rw [List.length_append, List.length_singleton]
  have hAppend := append_within_settles hLaws hWriter hUnder hOpen hPart hLast (by omega) (by omega) other
  rcases hAppend.cases with ⟨_, after, hRun, rfl, hFailures, hSame, hNext⟩ |
    ⟨e, after, -, -, -, ⟨hRefused, -⟩ | ⟨-, -, hRefused, -⟩⟩
  · let appended : World RecordKey KeyPair :=
      { world with dht := after, appended := world.appended ++ [other] }
    let pos := UInt64.ofNat world.appended.length
    have hStep : world.step codec (undisturbed (.append other)) =
        (.ok (.position (UInt64.ofNat world.appended.length).toNat), appended) := by
      rw [step_of_append rfl, hRun]
      rfl
    have hGetUnder : Stored codec (appended.under (undisturbed (.get pos))).records appended.log.spineKey
      world.owner keys (world.appended.length + 1) (world.appended ++ [data] ++ [other]) := hNext
    have hGetOpen : (appended.under (undisturbed (.get pos))).opened appended.log.spineKey ≠ none := by
      change after.opened world.log.spineKey ≠ none
      rw [hSame]
      exact fun hNone => Option.some_ne_none _ (hOpen.symm.trans hNone)
    have hPos : pos.toNat = world.appended.length := hStored.toNat_count
    rcases (get_settles hLaws hGetUnder hGetOpen pos).cases with
      ⟨_, read, hGet, rfl, hGetFailures, -⟩ | ⟨e, read, hGet, hGetFailures, -⟩
    · have hEntry : ((world.appended ++ [data] ++ [other]).take (world.appended.length + 1))[pos.toNat]? =
          some data := by
        simp [hPos]
      rw [hEntry] at hGet
      have hGetStep : appended.step codec (undisturbed (.get pos)) =
          (.ok (.entry (some data)), { appended with dht := read }) :=
        congrArg (appended.settle .entry fun _ => appended) hGet
      have hCalm : Calm codec world [undisturbed (.append other), undisturbed (.get pos)] := by
        have hNext : world.next codec (undisturbed (.append other)) = appended := congrArg Prod.snd hStep
        have hRead : appended.next codec (undisturbed (.get pos)) = { appended with dht := read } :=
          congrArg Prod.snd hGetStep
        refine ⟨(congrArg (·.dht.failures) hNext).trans hFailures, ?_, trivial⟩
        rw [hNext]
        exact (congrArg (·.dht.failures) hRead).trans hGetFailures
      intro hActs
      have hReplies := hActs _ hCalm
      rw [World.replies, World.replies, World.next, hStep, hGetStep] at hReplies
      have hSecond := (List.cons.inj (List.cons.inj hReplies).2).1
      simp [World.list, ListLog.step, hWriter, undisturbed, hPos] at hSecond
      exact hOther hSecond.symm
    · have hQuiet := staysQuiet_get codec appended.log pos (appended.under (undisturbed (.get pos))) rfl
      rw [hGet] at hQuiet
      exact absurd (hGetFailures.symm.trans hQuiet.2) (Nat.succ_ne_self _)
  · exact absurd (passes_undisturbed world _ 6) (hRefused hSize)
  · exact absurd (passes_undisturbed world _ 7) (hRefused ((spineFits_iff hLaws hStored).mp hFits))

/-- Whatever the torn segment is like, the log is no list any more. -/
theorem Torn.not_actsAs (hLaws : codec.Laws) {data : Bytes} (h : Torn codec world data) :
    ¬ActsAs codec world world.list := by
  by_cases hFull : (world.appended.length + 1) % 255 = 0
  · exact h.refuses hLaws hFull
  · exact h.misplaces hLaws hFull

/-! ## Runs with faults -/

omit [DecidableEq RecordKey] [DecidableEq KeyPair] in
theorem Kept.intact_or {op : LogOp} {after : Reply × World RecordKey KeyPair}
    (h : Kept codec world op after ∨ Failed codec world event after) (hWhole : ¬CutOff codec world event) :
    Intact codec after.2 :=
  h.elim Kept.intact fun hFailed => hFailed.intact hWhole

theorem list_of_append_error {data : Bytes} (hOp : event.op = .append data) {e : ProtocolError}
    (hError : (world.step codec event).1 = .error e) : (world.next codec event).list = world.list := by
  unfold World.next
  rw [step_of_append hOp] at hError ⊢
  cases hRun : (world.log.append codec data).run (world.under event) with
  | ok pos after =>
    rw [hRun] at hError
    cases hError
  | error e after => rfl

variable (codec world) in
/-- In every state that a run without cut-off appends reaches, the log is the list of what was
appended. An append that fails leaves it so, unless it is cut off itself. -/
def FailsHarmlessly : Prop := ∀ events,
  Runs.Along (World.next codec) (fun world event => ¬CutOff codec world event) world events →
  let reached := Runs.final (World.next codec) world events
  ActsAs codec reached reached.list ∧
  ∀ event data e, event.op = .append data → (reached.step codec event).1 = .error e →
    (¬CutOff codec reached event → ActsAs codec (reached.next codec event) reached.list) ∧
    (reached.SpineFits codec → CutOff codec reached event →
      ¬ActsAs codec (reached.next codec event) reached.list)

end Faults

namespace Reference

/-- A log just created. -/
def createdLog : World String Nat :=
  ⟨Result.state ((DHTLog.create codec).run (network [] [("spine", 7)])), ⟨"spine", some 7⟩, 7, []⟩

def firstAppend : Event String Nat := ⟨.append [1], [], [("segment", 8)]⟩

/-- The seventh call of the second append, which writes the spine, times out. -/
def cutOffAppend : Event String Nat :=
  ⟨.append [2], [none, none, none, none, none, none, some "timeout"], []⟩

/-- The log after the append that failed. -/
def tornLog : World String Nat := (createdLog.next codec firstAppend).next codec cutOffAppend

end Reference

end Rekindle.Protocol
