import Rekindle.Library.OrderedMap
import Rekindle.Library.Runs

/-! # The jitter buffer

Times are nanoseconds of the monotonic clock. Sequence numbers are `u32`, and their arithmetic wraps.
-/
namespace Rekindle.Voice
set_option autoImplicit false
open Std (TreeMap)
open OrderedMap

structure VoicePacket where
  senderKey : List UInt8
  sequence : UInt32
  timestamp : UInt64
  audioData : List UInt8
deriving DecidableEq, Repr

structure JitterBuffer where
  buffer : TreeMap UInt32 VoicePacket
  targetDelayMs : UInt32
  nextPlaybackSeq : UInt32
  maxPackets : Nat
  initialFillDone : Bool
  firstPacketTime : Option Nat

namespace JitterBuffer

def new (targetDelayMs : UInt32) : JitterBuffer where
  buffer := ∅
  targetDelayMs := targetDelayMs
  nextPlaybackSeq := 0
  maxPackets := 50
  initialFillDone := false
  firstPacketTime := none

/-- One round of the trimming loop. -/
def trimOnce (jb : JitterBuffer) : JitterBuffer :=
  { jb with
    buffer := popFirst jb.buffer
    nextPlaybackSeq := if jb.initialFillDone then jb.nextPlaybackSeq + 1 else jb.nextPlaybackSeq }

/-- `while buffer.len() > max_packets`, at most `rounds` times. -/
def trim (jb : JitterBuffer) : Nat → JitterBuffer
  | 0 => jb
  | rounds + 1 => if jb.maxPackets < jb.buffer.size then jb.trimOnce.trim rounds else jb

/-- Record the first packet time. -/
def noteFirstPacket (jb : JitterBuffer) (now : Nat) : JitterBuffer :=
  { jb with firstPacketTime := jb.firstPacketTime.or (some now) }

/-- The packet has already been played. -/
def Late (jb : JitterBuffer) (packet : VoicePacket) : Prop :=
  jb.initialFillDone = true ∧ packet.sequence < jb.nextPlaybackSeq

instance (jb : JitterBuffer) (packet : VoicePacket) : Decidable (jb.Late packet) := instDecidableAnd

def keep (jb : JitterBuffer) (packet : VoicePacket) : JitterBuffer :=
  { jb with buffer := jb.buffer.insert packet.sequence packet }

/-- Each round of the loop takes a packet out, so that there are no more rounds than packets. -/
def push (jb : JitterBuffer) (now : Nat) (packet : VoicePacket) : JitterBuffer :=
  let noted := jb.noteFirstPacket now
  if jb.Late packet then noted
  else
    let kept := noted.keep packet
    kept.trim kept.buffer.size

def targetPackets (jb : JitterBuffer) : Nat := max (jb.targetDelayMs.toNat / 20) 1

def elapsedMs (now since : Nat) : Nat := (now - since) / 1000000

def checkInitialFill (jb : JitterBuffer) (now : Nat) : JitterBuffer × Bool :=
  if jb.targetPackets ≤ jb.buffer.size then ({ jb with initialFillDone := true }, true)
  else
    match jb.firstPacketTime with
    | some firstTime =>
      if jb.targetDelayMs.toNat ≤ elapsedMs now firstTime then ({ jb with initialFillDone := true }, true)
      else (jb, false)
    | none => (jb, false)

/-- The second half of `pop`, once playback has started. -/
def takeNext (jb : JitterBuffer) : JitterBuffer × Option VoicePacket :=
  match jb.buffer[jb.nextPlaybackSeq]? with
  | some packet =>
    ({ jb with
        buffer := jb.buffer.erase jb.nextPlaybackSeq
        nextPlaybackSeq := jb.nextPlaybackSeq + 1 }, some packet)
  | none => (jb, none)

def pop (jb : JitterBuffer) (now : Nat) : JitterBuffer × Option VoicePacket :=
  if jb.initialFillDone then jb.takeNext
  else
    match jb.checkInitialFill now with
    | (jb, false) => (jb, none)
    | (jb, true) => takeNext { jb with nextPlaybackSeq := (firstKey? jb.buffer).getD jb.nextPlaybackSeq }

def peekNextAudioData (jb : JitterBuffer) : Option (List UInt8) :=
  if jb.initialFillDone then (jb.buffer[jb.nextPlaybackSeq + 1]?).map VoicePacket.audioData else none

def reset (jb : JitterBuffer) : JitterBuffer :=
  { jb with
    buffer := ∅
    nextPlaybackSeq := 0
    initialFillDone := false
    firstPacketTime := none }

@[simp] theorem reset_new (targetDelayMs : UInt32) : (new targetDelayMs).reset = new targetDelayMs := rfl

/-! ### What a call does -/

theorem next_le_of_lt {seq later : UInt32} (h : seq < later) : seq + 1 ≤ later := by
  rw [UInt32.le_iff_toNat_le, UInt32.toNat_add]
  rw [UInt32.lt_iff_toNat_lt] at h
  have hBound := later.toNat_lt
  simp only [UInt32.reduceToNat]
  omega

theorem lt_next {seq : UInt32} (h : seq.toNat < 4294967295) : seq < seq + 1 := by
  rw [UInt32.lt_iff_toNat_lt, UInt32.toNat_add]
  simp only [UInt32.reduceToNat]
  omega

theorem lt_next_of_lt {seq later : UInt32} (h : seq < later) : seq < seq + 1 := by
  rw [UInt32.lt_iff_toNat_lt] at h
  exact lt_next (Nat.lt_of_lt_of_le h (Nat.le_sub_one_of_lt later.toNat_lt))

/-- What holds of a buffer between any two calls. -/
structure Ordered (jb : JitterBuffer) : Prop where
  fits : jb.buffer.size ≤ jb.maxPackets
  labelled : ∀ (seq : UInt32) (packet : VoicePacket), jb.buffer[seq]? = some packet → packet.sequence = seq
  ahead : jb.initialFillDone = true → ∀ seq ∈ jb.buffer, jb.nextPlaybackSeq ≤ seq

variable {jb : JitterBuffer} {now : Nat} {packet : VoicePacket}

theorem Ordered.empty (h : jb.buffer = ∅) : jb.Ordered where
  fits := by rw [h, TreeMap.size_emptyc]; exact Nat.zero_le _
  labelled seq packet hPacket := by rw [h, TreeMap.getElem?_emptyc] at hPacket; cases hPacket
  ahead _ seq hSeq := by rw [h] at hSeq; exact absurd hSeq TreeMap.not_mem_emptyc

theorem trim_of_fits (h : jb.buffer.size ≤ jb.maxPackets) (rounds : Nat) : jb.trim rounds = jb := by
  cases rounds with
  | zero => rfl
  | succ rounds => rw [trim, if_neg (Nat.not_lt.mpr h)]

theorem trimOnce_first (h : 0 < jb.buffer.size) :
    ∃ first ∈ jb.buffer, (∀ seq ∈ jb.buffer, first ≤ seq) ∧ jb.trimOnce.buffer = jb.buffer.erase first := by
  obtain ⟨seq, hSeq⟩ := exists_mem_of_size_pos h
  obtain ⟨first, hFirst⟩ := exists_firstKey? hSeq
  obtain ⟨hMem, hLeast⟩ := firstKey?_eq_some_iff.mp hFirst
  exact ⟨first, hMem, hLeast, popFirst_of_firstKey? hFirst⟩

theorem size_trimOnce (h : 0 < jb.buffer.size) : jb.trimOnce.buffer.size = jb.buffer.size - 1 := by
  obtain ⟨first, hMem, -, hErase⟩ := trimOnce_first h
  rw [hErase, size_erase_of_mem hMem]

/-- The packet is dropped, it is kept, or it is kept and the first packet makes room for it. -/
theorem push_cases (now : Nat) (packet : VoicePacket) (hFits : jb.buffer.size ≤ jb.maxPackets) :
    (jb.Late packet ∧ jb.push now packet = jb.noteFirstPacket now) ∨
    (¬ jb.Late packet ∧ (packet.sequence ∈ jb.buffer ∨ jb.buffer.size < jb.maxPackets) ∧
      jb.push now packet = (jb.noteFirstPacket now).keep packet) ∨
    (¬ jb.Late packet ∧ packet.sequence ∉ jb.buffer ∧ jb.buffer.size = jb.maxPackets ∧
      jb.push now packet = ((jb.noteFirstPacket now).keep packet).trimOnce) := by
  by_cases hLate : jb.Late packet
  · exact .inl ⟨hLate, if_pos hLate⟩
  · have hPush : jb.push now packet = ((jb.noteFirstPacket now).keep packet).trim
        ((jb.noteFirstPacket now).keep packet).buffer.size := if_neg hLate
    have hKept : ((jb.noteFirstPacket now).keep packet).buffer = jb.buffer.insert packet.sequence packet := rfl
    refine .inr ?_
    by_cases hMem : packet.sequence ∈ jb.buffer
    · refine .inl ⟨hLate, .inl hMem, hPush.trans (trim_of_fits ?_ _)⟩
      rw [hKept, size_insert_of_mem hMem]
      exact hFits
    · have hSize : ((jb.noteFirstPacket now).keep packet).buffer.size = jb.buffer.size + 1 := by
        rw [hKept, size_insert_of_not_mem hMem]
      rcases Nat.lt_or_eq_of_le hFits with hRoom | hFull
      · refine .inl ⟨hLate, .inr hRoom, hPush.trans (trim_of_fits ?_ _)⟩
        rw [hSize]
        exact hRoom
      · refine .inr ⟨hLate, hMem, hFull, ?_⟩
        have hOver : ((jb.noteFirstPacket now).keep packet).maxPackets <
            ((jb.noteFirstPacket now).keep packet).buffer.size := by
          rw [hSize, hFull]
          exact Nat.lt_succ_self _
        rw [hPush, hSize, trim, if_pos hOver]
        refine trim_of_fits ?_ _
        rw [size_trimOnce (Nat.zero_lt_of_lt hOver), hSize, hFull]
        exact Nat.le_refl _

/-- Playback has started, or the next `pop` starts it. -/
def Ready (jb : JitterBuffer) (now : Nat) : Prop :=
  jb.initialFillDone = true ∨ jb.targetPackets ≤ jb.buffer.size ∨
    ∃ firstTime, jb.firstPacketTime = some firstTime ∧ jb.targetDelayMs.toNat ≤ elapsedMs now firstTime

/-- The buffer with playback started, at its first packet. -/
def started (jb : JitterBuffer) : JitterBuffer :=
  if jb.initialFillDone then jb
  else { jb with initialFillDone := true, nextPlaybackSeq := (firstKey? jb.buffer).getD jb.nextPlaybackSeq }

theorem checkInitialFill_of_ready (hDone : ¬ jb.initialFillDone = true) (h : jb.Ready now) :
    jb.checkInitialFill now = ({ jb with initialFillDone := true }, true) := by
  unfold checkInitialFill
  rcases h with hDone' | hSize | ⟨firstTime, hFirst, hElapsed⟩
  · exact absurd hDone' hDone
  · rw [if_pos hSize]
  · split
    · rfl
    · rw [hFirst]
      exact if_pos hElapsed

theorem checkInitialFill_of_not_ready (h : ¬ jb.Ready now) : jb.checkInitialFill now = (jb, false) := by
  have hSize : ¬ jb.targetPackets ≤ jb.buffer.size := fun hSize => h (.inr (.inl hSize))
  rw [checkInitialFill, if_neg hSize]
  cases hFirst : jb.firstPacketTime with
  | none => rfl
  | some firstTime => exact if_neg fun hElapsed => h (.inr (.inr ⟨firstTime, hFirst, hElapsed⟩))

theorem pop_of_ready (h : jb.Ready now) : jb.pop now = jb.started.takeNext := by
  by_cases hDone : jb.initialFillDone = true
  · rw [pop, if_pos hDone, started, if_pos hDone]
  · rw [pop, if_neg hDone, checkInitialFill_of_ready hDone h, started, if_neg hDone]

theorem pop_of_not_ready (h : ¬ jb.Ready now) : jb.pop now = (jb, none) := by
  have hDone : ¬ jb.initialFillDone = true := fun hDone => h (.inl hDone)
  rw [pop, if_neg hDone, checkInitialFill_of_not_ready h]

end JitterBuffer

end Rekindle.Voice
