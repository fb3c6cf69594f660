import Mathlib.Data.List.Chain
import Rekindle.Voice.PlaybackOrder

/-! # The end of the sequence numbers

The calls of the buffer as a debug build runs them, in which an overflow of the expected number has no result, and
what becomes of a sender whose counter starts over.
-/
namespace Rekindle.Voice.JitterBuffer
set_option autoImplicit false
open Runs OrderedMap

def lastSequence : UInt32 := 4294967295

/-- `seq += 1`. -/
def successor? (seq : UInt32) : Option UInt32 := if seq = lastSequence then none else some (seq + 1)

def trimOnce? (jb : JitterBuffer) : Option JitterBuffer :=
  if jb.initialFillDone then
    (successor? jb.nextPlaybackSeq).map fun next => { jb with buffer := popFirst jb.buffer, nextPlaybackSeq := next }
  else some { jb with buffer := popFirst jb.buffer }

def trim? (jb : JitterBuffer) : Nat → Option JitterBuffer
  | 0 => some jb
  | rounds + 1 =>
    if jb.maxPackets < jb.buffer.size then jb.trimOnce?.bind fun trimmed => trimmed.trim? rounds else some jb

def push? (jb : JitterBuffer) (now : Nat) (packet : VoicePacket) : Option JitterBuffer :=
  let noted := jb.noteFirstPacket now
  if jb.Late packet then some noted
  else
    let kept := noted.keep packet
    kept.trim? kept.buffer.size

def takeNext? (jb : JitterBuffer) : Option (JitterBuffer × Option VoicePacket) :=
  match jb.buffer[jb.nextPlaybackSeq]? with
  | some packet =>
    (successor? jb.nextPlaybackSeq).map fun next =>
      ({ jb with buffer := jb.buffer.erase jb.nextPlaybackSeq, nextPlaybackSeq := next }, some packet)
  | none => some (jb, none)

def pop? (jb : JitterBuffer) (now : Nat) : Option (JitterBuffer × Option VoicePacket) :=
  if jb.initialFillDone then jb.takeNext?
  else
    match jb.checkInitialFill now with
    | (jb, false) => some (jb, none)
    | (jb, true) => takeNext? { jb with nextPlaybackSeq := (firstKey? jb.buffer).getD jb.nextPlaybackSeq }

def Call.run? (jb : JitterBuffer) : Call → Option (JitterBuffer × Option VoicePacket)
  | .push now packet => (jb.push? now packet).map fun later => (later, none)
  | .pop now => jb.pop? now
  | .peek => some (jb, none)

/-- The call plays the packet with the last number. -/
def TakesLast (jb : JitterBuffer) : Call → Prop
  | .pop now => jb.Ready now ∧ jb.started.nextPlaybackSeq = lastSequence ∧ lastSequence ∈ jb.buffer
  | _ => False

/-- A packet that comes is kept, and a started buffer that is not empty plays one. -/
def PlaysOn (jb : JitterBuffer) : Call → Prop
  | .push now packet => packet.sequence ∈ (jb.push now packet).buffer
  | .pop now => jb.Ready now → 0 < jb.buffer.size → (jb.pop now).2 ≠ none
  | .peek => True

/-- The numbers of the packets that are pushed. -/
def pushed (calls : List Call) : List UInt32 := calls.filterMap fun call => call.packet?.map VoicePacket.sequence

/-- One sender, whose packets come in their order: the counter is advanced by `wrapping_add`. -/
def Consecutive (calls : List Call) : Prop := (pushed calls).IsChain fun before next => next = before + 1

/-- The counter does not go from the last number to 0. -/
def NeverWraps (calls : List Call) : Prop :=
  (pushed calls).IsChain fun before next => ¬(before = lastSequence ∧ next = 0)

/-- No call overflows the expected number, and a sender whose packets come in their order is played on and on. -/
def SafelyNumbered (targetDelayMs : UInt32) (calls : List Call) : Prop :=
  Along after (fun jb call => call.run? jb ≠ none) (new targetDelayMs) calls ∧
    (Consecutive calls → Along after PlaysOn (new targetDelayMs) calls)

variable {jb : JitterBuffer} {now : Nat} {packet : VoicePacket}

theorem successor?_of_ne {seq : UInt32} (h : seq ≠ lastSequence) : successor? seq = some (seq + 1) := if_neg h

theorem trimOnce?_eq (h : jb.initialFillDone = true → jb.nextPlaybackSeq ≠ lastSequence) :
    jb.trimOnce? = some jb.trimOnce := by
  unfold trimOnce? trimOnce
  split
  · next hDone => rw [successor?_of_ne (h hDone), Option.map_some]
  · rfl

theorem trim?_of_fits (h : jb.buffer.size ≤ jb.maxPackets) (rounds : Nat) : jb.trim? rounds = some jb := by
  cases rounds with
  | zero => rfl
  | succ rounds => rw [trim?, if_neg (Nat.not_lt.mpr h)]

theorem toNat_lastSequence : lastSequence.toNat = 4294967295 := rfl

theorem le_lastSequence (seq : UInt32) : seq ≤ lastSequence := by
  rw [UInt32.le_iff_toNat_le, toNat_lastSequence]
  have hBound := seq.toNat_lt
  omega

theorem toNat_next {seq : UInt32} (h : seq ≠ lastSequence) : (seq + 1).toNat = seq.toNat + 1 := by
  have hBound := seq.toNat_lt
  have hNe : seq.toNat ≠ 4294967295 := fun hSame => h (UInt32.toNat_inj.mp hSame)
  rw [UInt32.toNat_add]
  simp only [UInt32.reduceToNat]
  omega

/-- Whoever holds only the last number holds one packet at most. -/
theorem size_le_one (h : ∀ seq ∈ jb.buffer, lastSequence ≤ seq) : jb.buffer.size ≤ 1 := by
  have hOnly : ∀ seq ∈ jb.buffer, seq = lastSequence := fun seq hSeq =>
    UInt32.le_antisymm (le_lastSequence seq) (h seq hSeq)
  by_contra hMore
  have hSome : 0 < jb.buffer.size := by omega
  obtain ⟨first, hFirst⟩ := exists_mem_of_size_pos hSome
  have hRest : 0 < (jb.buffer.erase first).size := by
    rw [size_erase_of_mem hFirst]
    omega
  obtain ⟨other, hOther⟩ := exists_mem_of_size_pos hRest
  obtain ⟨hNe, hMem⟩ := mem_erase_iff.mp hOther
  exact hNe ((hOnly other hMem).trans (hOnly first hFirst).symm)

/-! ## Overflows -/

theorem trim?_eq (hOver : jb.buffer.size ≤ jb.maxPackets + 1)
    (hNext : jb.initialFillDone = true → jb.maxPackets < jb.buffer.size → jb.nextPlaybackSeq ≠ lastSequence) :
    jb.trim? jb.buffer.size = some (jb.trim jb.buffer.size) := by
  by_cases hFits : jb.buffer.size ≤ jb.maxPackets
  · rw [trim?_of_fits hFits, trim_of_fits hFits]
  · have hFull : jb.maxPackets < jb.buffer.size := Nat.lt_of_not_le hFits
    obtain ⟨rounds, hRounds⟩ := Nat.exists_eq_add_one_of_ne_zero (Nat.ne_of_gt (Nat.zero_lt_of_lt hFull))
    have hTrimmed : jb.trimOnce.buffer.size ≤ jb.trimOnce.maxPackets := by
      rw [size_trimOnce (Nat.zero_lt_of_lt hFull)]
      change jb.buffer.size - 1 ≤ jb.maxPackets
      omega
    rw [hRounds, trim?, trim, if_pos hFull, if_pos hFull, trimOnce?_eq fun hDone => hNext hDone hFull, Option.bind_some,
      trim?_of_fits hTrimmed, trim_of_fits hTrimmed]

/-- Making room never overflows. -/
theorem push?_eq (h : jb.Ordered) (hRoom : 0 < jb.maxPackets) : jb.push? now packet = some (jb.push now packet) := by
  unfold push? push
  dsimp only
  by_cases hLate : jb.Late packet
  · rw [if_pos hLate, if_pos hLate]
  · rw [if_neg hLate, if_neg hLate]
    have hKept : ((jb.noteFirstPacket now).keep packet).buffer = jb.buffer.insert packet.sequence packet := rfl
    refine trim?_eq ?_ fun hDone hOver hLast => ?_
    · rw [hKept]
      exact Nat.le_trans Std.TreeMap.size_insert_le (Nat.succ_le_succ h.fits)
    · have hAhead := ahead_keep (h.noteFirstPacket now).ahead hLate hDone
      have hFew : ((jb.noteFirstPacket now).keep packet).buffer.size ≤ 1 := size_le_one fun seq hSeq => by
        have hSeqAhead := hAhead seq hSeq
        exact hLast ▸ hSeqAhead
      exact absurd hOver (Nat.not_lt.mpr (Nat.le_trans hFew hRoom))

theorem takeNext?_eq (h : ¬(jb.nextPlaybackSeq = lastSequence ∧ lastSequence ∈ jb.buffer)) :
    jb.takeNext? = some jb.takeNext := by
  unfold takeNext? takeNext
  cases hFound : jb.buffer[jb.nextPlaybackSeq]? with
  | none => rfl
  | some packet =>
    have hNext : jb.nextPlaybackSeq ≠ lastSequence := fun hSame =>
      h ⟨hSame, hSame ▸ mem_iff_getElem?.mpr ⟨packet, hFound⟩⟩
    dsimp only
    rw [successor?_of_ne hNext, Option.map_some]

theorem takeNext?_last (h : jb.nextPlaybackSeq = lastSequence ∧ lastSequence ∈ jb.buffer) : jb.takeNext? = none := by
  obtain ⟨packet, hFound⟩ := mem_iff_getElem?.mp h.2
  unfold takeNext?
  rw [h.1, hFound]
  rfl

theorem pop?_of_ready (h : jb.Ready now) : jb.pop? now = jb.started.takeNext? := by
  by_cases hDone : jb.initialFillDone = true
  · rw [pop?, if_pos hDone, started, if_pos hDone]
  · have hCheck : jb.checkInitialFill now = ({ jb with initialFillDone := true }, true) := checkInitialFill_of_ready hDone h
    rw [pop?, if_neg hDone, hCheck, started, if_neg hDone]

theorem pop?_of_not_ready (h : ¬jb.Ready now) : jb.pop? now = some (jb, none) := by
  have hDone : ¬jb.initialFillDone = true := fun hDone => h (.inl hDone)
  rw [pop?, if_neg hDone, checkInitialFill_of_not_ready h]

/-- Only playing the packet with the last number overflows. -/
theorem run?_eq (h : jb.Ordered) (hRoom : 0 < jb.maxPackets) {call : Call} (hLast : ¬TakesLast jb call) :
    call.run? jb = some (call.run jb) := by
  cases call with
  | push now packet => rw [Call.run?, push?_eq h hRoom]; rfl
  | pop now =>
    change jb.pop? now = some (jb.pop now)
    by_cases hReady : jb.Ready now
    · rw [pop?_of_ready hReady, pop_of_ready hReady]
      refine takeNext?_eq fun hTakes => hLast ⟨hReady, hTakes.1, ?_⟩
      exact started_buffer ▸ hTakes.2
    · rw [pop?_of_not_ready hReady, pop_of_not_ready hReady]
  | peek => rfl

theorem run?_ne_none_iff (h : jb.Ordered) (hRoom : 0 < jb.maxPackets) (call : Call) :
    call.run? jb ≠ none ↔ ¬TakesLast jb call := by
  constructor
  · intro hRuns hLast
    cases call with
    | push => exact hLast
    | pop now =>
      refine hRuns ?_
      change jb.pop? now = none
      rw [pop?_of_ready hLast.1]
      exact takeNext?_last ⟨hLast.2.1, started_buffer.symm ▸ hLast.2.2⟩
    | peek => exact hLast
  · intro hLast
    rw [run?_eq h hRoom hLast]
    exact Option.some_ne_none _

/-! ## One sender whose packets come in their order -/

/-- The buffer holds what came from `first` on, and playback is at `first`. -/
structure Window (first : Nat) (last : UInt32) (jb : JitterBuffer) : Prop where
  mem : ∀ seq, seq ∈ jb.buffer ↔ first ≤ seq.toNat ∧ seq.toNat ≤ last.toNat
  bounded : first ≤ last.toNat + 1
  next : jb.initialFillDone = true → jb.nextPlaybackSeq.toNat = first
  waiting : jb.initialFillDone = false → first ≤ last.toNat

/-- Nothing has come. -/
structure Untouched (jb : JitterBuffer) : Prop where
  buffer : jb.buffer = ∅
  done : jb.initialFillDone = false
  time : jb.firstPacketTime = none

def Streams (last : Option UInt32) (jb : JitterBuffer) : Prop :=
  match last with
  | none => jb.Untouched
  | some last => ∃ first, jb.Window first last

variable {first : Nat} {last : UInt32}

theorem Window.le_last (h : jb.Window first last) (hSome : 0 < jb.buffer.size) : first ≤ last.toNat := by
  obtain ⟨seq, hSeq⟩ := exists_mem_of_size_pos hSome
  obtain ⟨hLower, hUpper⟩ := (h.mem seq).mp hSeq
  omega

theorem toNat_ofNat_of_le {seq : UInt32} (h : first ≤ seq.toNat) : (UInt32.ofNat first).toNat = first :=
  UInt32.toNat_ofNat_of_lt' (Nat.lt_of_le_of_lt h seq.toNat_lt_size)

/-- The first packet in the buffer is the one that playback is at. -/
theorem Window.toNat_least (h : jb.Window first last) (hLast : first ≤ last.toNat) {least : UInt32}
    (hMem : least ∈ jb.buffer) (hLeast : ∀ seq ∈ jb.buffer, least ≤ seq) : least.toNat = first := by
  have hFirst := toNat_ofNat_of_le hLast
  have hHeld : UInt32.ofNat first ∈ jb.buffer := (h.mem _).mpr ⟨by omega, by omega⟩
  have hUpper := UInt32.le_iff_toNat_le.mp (hLeast _ hHeld)
  have hLower := ((h.mem least).mp hMem).1
  omega

theorem Window.not_late (h : jb.Window first last) (hNext : packet.sequence.toNat = last.toNat + 1) :
    ¬jb.Late packet := by
  rintro ⟨hDone, hLt⟩
  have hAt := h.next hDone
  have hBounded := h.bounded
  rw [UInt32.lt_iff_toNat_lt] at hLt
  omega

theorem Window.keep (h : jb.Window first last) (hNext : packet.sequence.toNat = last.toNat + 1) :
    ((jb.noteFirstPacket now).keep packet).Window first packet.sequence where
  mem seq := by
    rw [JitterBuffer.keep, mem_insert_iff, ← UInt32.toNat_inj]
    change seq.toNat = packet.sequence.toNat ∨ seq ∈ jb.buffer ↔ _
    rw [h.mem seq]
    have hBounded := h.bounded
    omega
  bounded := by
    have hBounded := h.bounded
    omega
  next := h.next
  waiting hDone := by
    have hWaiting := h.waiting hDone
    omega

/-- Making room moves playback to the packet after the one that goes. -/
theorem Window.trimOnce (h : jb.Window first last) (hTwo : 1 < jb.buffer.size) (hMore : first < last.toNat) :
    jb.trimOnce.Window (first + 1) last := by
  obtain ⟨least, hMem, hLeast, hErase⟩ := trimOnce_first (Nat.zero_lt_of_lt hTwo)
  have hAt := h.toNat_least (Nat.le_of_lt hMore) hMem hLeast
  refine ⟨fun seq => ?_, by omega, fun hDone => ?_, fun _ => hMore⟩
  · rw [hErase, mem_erase_iff, h.mem seq, ne_eq, ← UInt32.toNat_inj, hAt]
    omega
  · have hStarted : jb.initialFillDone = true := hDone
    have hHere := h.next hStarted
    have hBound := last.toNat_lt
    rw [next_trimOnce hStarted, toNat_next, hHere]
    rintro hSame
    rw [hSame, toNat_lastSequence] at hHere
    omega

theorem Window.push (h : jb.Window first last) (hOrdered : jb.Ordered) (hRoom : 0 < jb.maxPackets)
    (hNext : packet.sequence.toNat = last.toNat + 1) :
    packet.sequence ∈ (jb.push now packet).buffer ∧ (jb.push now packet).Streams (some packet.sequence) := by
  have hKeep : ((jb.noteFirstPacket now).keep packet).Window first packet.sequence := h.keep hNext
  rcases push_cases now packet hOrdered.fits with
    ⟨hLate, -⟩ | ⟨-, -, hPush⟩ | ⟨-, hNew, hFull, hPush⟩
  · exact absurd hLate (h.not_late hNext)
  · rw [hPush]
    exact ⟨mem_insert_iff.mpr (.inl rfl), first, hKeep⟩
  · have hLast : first ≤ last.toNat := h.le_last (by omega)
    have hTwo : 1 < ((jb.noteFirstPacket now).keep packet).buffer.size := by
      change 1 < (jb.buffer.insert packet.sequence packet).size
      rw [size_insert_of_not_mem hNew]
      omega
    have hTrimmed := hKeep.trimOnce hTwo (by omega)
    rw [hPush]
    exact ⟨(hTrimmed.mem _).mpr ⟨by omega, Nat.le_refl _⟩, first + 1, hTrimmed⟩

theorem Untouched.push (h : jb.Untouched) (hRoom : 0 < jb.maxPackets) :
    packet.sequence ∈ (jb.push now packet).buffer ∧ (jb.push now packet).Streams (some packet.sequence) := by
  have hEmpty : jb.buffer.size = 0 := by rw [h.buffer, Std.TreeMap.size_emptyc]
  rcases push_cases now packet (Nat.le_of_lt (hEmpty.symm ▸ hRoom)) with
    ⟨⟨hDone, -⟩, -⟩ | ⟨-, -, hPush⟩ | ⟨-, -, hFull, -⟩
  · exact absurd hDone (by rw [h.done]; exact Bool.false_ne_true)
  · rw [hPush]
    refine ⟨mem_insert_iff.mpr (.inl rfl), packet.sequence.toNat, fun seq => ?_, Nat.le_succ _, fun hDone => ?_,
      fun _ => Nat.le_refl _⟩
    · rw [JitterBuffer.keep, mem_insert_iff, ← UInt32.toNat_inj]
      change seq.toNat = packet.sequence.toNat ∨ seq ∈ jb.buffer ↔ _
      have hNot : seq ∉ jb.buffer := by
        rw [h.buffer]
        exact Std.TreeMap.not_mem_emptyc
      simp only [hNot, or_false]
      omega
    · exact absurd hDone (by
        change ¬jb.initialFillDone = true
        rw [h.done]
        exact Bool.false_ne_true)
  · omega

theorem Untouched.not_ready (h : jb.Untouched) : ¬jb.Ready now := by
  rintro (hDone | hSize | ⟨firstTime, hTime, -⟩)
  · exact absurd hDone (by rw [h.done]; exact Bool.false_ne_true)
  · rw [h.buffer, Std.TreeMap.size_emptyc] at hSize
    exact absurd (Nat.le_trans (Nat.le_max_right _ 1) hSize) (Nat.not_succ_le_zero 0)
  · cases h.time.symm.trans hTime

theorem Window.started (h : jb.Window first last) : jb.started.Window first last := by
  by_cases hDone : jb.initialFillDone = true
  · rwa [started_of_done hDone]
  · have hLast := h.waiting (Bool.eq_false_iff.mpr hDone)
    have hFirst := toNat_ofNat_of_le hLast
    have hHeld : UInt32.ofNat first ∈ jb.buffer := (h.mem _).mpr ⟨by omega, by omega⟩
    obtain ⟨least, hLeast⟩ := exists_firstKey? hHeld
    obtain ⟨hMem, hLe⟩ := firstKey?_eq_some_iff.mp hLeast
    rw [JitterBuffer.started, if_neg hDone, hLeast]
    exact ⟨h.mem, h.bounded, fun _ => h.toNat_least hLast hMem hLe, fun hNot => Bool.noConfusion hNot⟩

theorem Window.pop (h : jb.Window first last) (hLast : ¬TakesLast jb (.pop now)) :
    PlaysOn jb (.pop now) ∧ (jb.pop now).1.Streams (some last) := by
  by_cases hReady : jb.Ready now
  · have hStarted := h.started
    have hAt := hStarted.next done_started
    have hPop := pop_of_ready hReady
    rcases takeNext_cases jb.started with ⟨hMissing, hTake⟩ | ⟨packet, hFound, hTake⟩
    · rw [hTake] at hPop
      rw [hPop]
      refine ⟨fun _ hSome => ?_, first, hStarted⟩
      have hHere := h.le_last hSome
      exact absurd ((hStarted.mem _).mpr ⟨by omega, by omega⟩) hMissing
    · have hMem : jb.started.nextPlaybackSeq ∈ jb.started.buffer := mem_iff_getElem?.mpr ⟨packet, hFound⟩
      have hNe : jb.started.nextPlaybackSeq ≠ lastSequence := by
        intro hSame
        rw [started_buffer, hSame] at hMem
        exact hLast ⟨hReady, hSame, hMem⟩
      obtain ⟨-, hUpper⟩ := (hStarted.mem _).mp hMem
      rw [hTake] at hPop
      refine ⟨fun _ _ => by rw [hPop]; exact Option.some_ne_none packet, ?_⟩
      rw [hPop]
      refine ⟨first + 1, fun seq => ?_, by omega, fun _ => ?_, fun hNot => ?_⟩
      · dsimp only
        rw [mem_erase_iff, hStarted.mem seq, ne_eq, ← UInt32.toNat_inj, hAt]
        omega
      · dsimp only
        rw [toNat_next hNe, hAt]
      · exact absurd (hNot.symm.trans done_started) Bool.false_ne_true
  · have hPop := pop_of_not_ready hReady
    rw [hPop]
    exact ⟨fun hIs => absurd hIs hReady, first, h⟩

/-- By induction over the calls, with the number that came last. -/
theorem playsOn_of_streams (calls : List Call) {last : Option UInt32} (hOrdered : jb.Ordered) (hRoom : 0 < jb.maxPackets)
    (hStreams : jb.Streams last)
    (hNext : (last.toList ++ pushed calls).IsChain fun before next => next.toNat = before.toNat + 1)
    (hLast : Along after (fun jb call => ¬TakesLast jb call) jb calls) : Along after PlaysOn jb calls := by
  induction calls generalizing jb last with
  | nil => trivial
  | cons call rest ih =>
    have hRest : 0 < (jb.after call).maxPackets := (maxPackets_after hOrdered call).symm ▸ hRoom
    cases call with
    | push now packet =>
      have hPushed : packet.sequence ∈ (jb.push now packet).buffer ∧
          (jb.push now packet).Streams (some packet.sequence) := by
        cases last with
        | none => exact Untouched.push hStreams hRoom
        | some last =>
          obtain ⟨first, hWindow⟩ := hStreams
          exact hWindow.push hOrdered hRoom (List.isChain_cons_cons.mp hNext).1
      refine ⟨hPushed.1, ih (hOrdered.after _) hRest hPushed.2 ?_ hLast.2⟩
      cases last with
      | none => exact hNext
      | some last => exact (List.isChain_cons_cons.mp hNext).2
    | pop now =>
      have hPopped : PlaysOn jb (.pop now) ∧ (jb.pop now).1.Streams last := by
        cases last with
        | none =>
          have hIdle : ¬jb.Ready now := Untouched.not_ready hStreams
          rw [pop_of_not_ready hIdle]
          exact ⟨fun hIs => absurd hIs hIdle, hStreams⟩
        | some last =>
          obtain ⟨first, hWindow⟩ := hStreams
          exact hWindow.pop hLast.1
      exact ⟨hPopped.1, ih (hOrdered.after _) hRest hPopped.2 hNext hLast.2⟩
    | peek => exact ⟨trivial, ih (hOrdered.after _) hRest hStreams hNext hLast.2⟩

theorem toNat_chain {numbers : List UInt32} (h : numbers.IsChain fun before next => next = before + 1)
    (hWraps : numbers.IsChain fun before next => ¬(before = lastSequence ∧ next = 0)) :
    numbers.IsChain fun before next => next.toNat = before.toNat + 1 := by
  induction numbers with
  | nil => exact .nil
  | cons first rest ih =>
    cases rest with
    | nil => exact .singleton first
    | cons second rest =>
      obtain ⟨hNext, hRest⟩ := List.isChain_cons_cons.mp h
      obtain ⟨hStays, hWrapsRest⟩ := List.isChain_cons_cons.mp hWraps
      have hNe : first ≠ lastSequence := by
        rintro rfl
        exact hStays ⟨rfl, hNext⟩
      exact List.isChain_cons_cons.mpr ⟨hNext ▸ toNat_next hNe, ih hRest hWrapsRest⟩

/-- As long as the packet with the last number is not played and the sender's counter does not start over. -/
theorem safelyNumbered_of_neverWraps (targetDelayMs : UInt32) (calls : List Call)
    (hLast : Along after (fun jb call => ¬TakesLast jb call) (new targetDelayMs) calls) (hWraps : NeverWraps calls) :
    SafelyNumbered targetDelayMs calls := by
  have hOrdered : (new targetDelayMs).Ordered := .empty rfl
  have hRoom : 0 < (new targetDelayMs).maxPackets := Nat.succ_pos 49
  have hStreams : (new targetDelayMs).Streams none := ⟨rfl, rfl, rfl⟩
  refine ⟨?_, fun hConsecutive => ?_⟩
  · refine (Along.of_invariant (fun jb : JitterBuffer => jb.Ordered ∧ 0 < jb.maxPackets) ?_ ⟨hOrdered, hRoom⟩ hLast).1
    rintro jb call ⟨hKept, hRoom⟩ hNot
    exact ⟨⟨hKept.after call, (maxPackets_after hKept call).symm ▸ hRoom⟩, (run?_ne_none_iff hKept hRoom call).mpr hNot⟩
  · exact playsOn_of_streams calls hOrdered hRoom hStreams (toNat_chain hConsecutive hWraps) hLast

/-- The second packet comes when playback has started. -/
theorem safelyNumbered_of_neverWraps_two : SafelyNumbered 0 [.push 0 (samplePacket 7), .pop 0, .push 0 (samplePacket 8)] := by
  refine safelyNumbered_of_neverWraps 0 _ ⟨id, ?_, id, trivial⟩ ?_
  · rintro ⟨-, hNext, -⟩
    revert hNext
    decide +kernel
  · exact List.isChain_cons_cons.mpr ⟨by decide, .singleton _⟩

/-- A single packet overflows the expected number; and with two packets in the buffer the counter starts over while
playback is still before its end, so that the packet numbered 0 is dropped. -/
theorem last_number_overflows : ¬SafelyNumbered 0 [.push 0 (samplePacket lastSequence), .pop 0] ∧
    ¬SafelyNumbered 40 [.push 0 (samplePacket (lastSequence - 1)), .push 0 (samplePacket lastSequence), .pop 0,
      .push 0 (samplePacket 0)] := by
  constructor
  · rintro ⟨⟨-, hPop, -⟩, -⟩
    revert hPop
    decide +kernel
  · rintro ⟨-, hPlays⟩
    have hConsecutive : Consecutive [.push 0 (samplePacket (lastSequence - 1)), .push 0 (samplePacket lastSequence), .pop 0,
        .push 0 (samplePacket 0)] :=
      List.isChain_cons_cons.mpr ⟨by decide, List.isChain_cons_cons.mpr ⟨by decide, .singleton _⟩⟩
    obtain ⟨-, -, -, hKept, -⟩ := hPlays hConsecutive
    revert hKept
    unfold PlaysOn
    decide +kernel

end Rekindle.Voice.JitterBuffer
