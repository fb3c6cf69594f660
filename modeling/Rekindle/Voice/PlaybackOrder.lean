import Mathlib.Algebra.Ring.Nat
import Rekindle.Voice.JitterBuffer

/-! # The order of playback -/
namespace Rekindle.Voice.JitterBuffer
set_option autoImplicit false
open Runs OrderedMap

inductive Call where
  | push (now : Nat) (packet : VoicePacket)
  | pop (now : Nat)
  | peek
deriving DecidableEq, Repr

/-- The buffer after the call, and the packet it returns. `peek` only reads. -/
def Call.run (jb : JitterBuffer) : Call → JitterBuffer × Option VoicePacket
  | .push now packet => (jb.push now packet, none)
  | .pop now => jb.pop now
  | .peek => (jb, none)

def after (jb : JitterBuffer) (call : Call) : JitterBuffer := (call.run jb).1

/-- The packets that the calls to `pop` return, in their order. -/
def popped : JitterBuffer → List Call → List VoicePacket
  | _, [] => []
  | jb, call :: rest => (call.run jb).2.toList ++ popped (jb.after call) rest

variable {jb : JitterBuffer} {now : Nat} {packet : VoicePacket}

/-! ### The invariant of a buffer -/

theorem labelled_keep
    (h : ∀ (seq : UInt32) (packet : VoicePacket), jb.buffer[seq]? = some packet → packet.sequence = seq)
    (packet : VoicePacket) (seq : UInt32) (found : VoicePacket) (hFound : (jb.keep packet).buffer[seq]? = some found) :
    found.sequence = seq := by
  rw [keep, getElem?_insert_iff] at hFound
  split at hFound
  · cases hFound
    exact Eq.symm ‹_›
  · exact h seq found hFound

theorem ahead_keep (hAhead : jb.initialFillDone = true → ∀ seq ∈ jb.buffer, jb.nextPlaybackSeq ≤ seq)
    (hLate : ¬ jb.Late packet) (hDone : jb.initialFillDone = true) :
    ∀ seq ∈ (jb.keep packet).buffer, jb.nextPlaybackSeq ≤ seq := by
  intro seq hSeq
  rcases mem_insert_iff.mp hSeq with rfl | hOld
  · exact UInt32.not_lt.mp fun hLt => hLate ⟨hDone, hLt⟩
  · exact hAhead hDone seq hOld

theorem next_trimOnce (h : jb.initialFillDone = true) : jb.trimOnce.nextPlaybackSeq = jb.nextPlaybackSeq + 1 :=
  if_pos h

theorem mem_trimOnce {seq : UInt32} (h : 0 < jb.buffer.size) (hSeq : seq ∈ jb.trimOnce.buffer) :
    ∃ first ∈ jb.buffer, first < seq ∧ seq ∈ jb.buffer := by
  obtain ⟨first, hFirst, hLeast, hErase⟩ := trimOnce_first h
  rw [hErase] at hSeq
  obtain ⟨hNe, hMem⟩ := mem_erase_iff.mp hSeq
  exact ⟨first, hFirst, UInt32.lt_of_le_of_ne (hLeast seq hMem) (Ne.symm hNe), hMem⟩

theorem getElem?_trimOnce {seq : UInt32} (h : jb.trimOnce.buffer[seq]? = some packet) :
    jb.buffer[seq]? = some packet := by
  rw [trimOnce, popFirst] at h
  split at h
  · rw [Std.TreeMap.getElem?_erase] at h
    split at h
    · cases h
    · exact h
  · exact h

theorem Ordered.noteFirstPacket (h : jb.Ordered) (now : Nat) : (jb.noteFirstPacket now).Ordered :=
  ⟨h.fits, h.labelled, h.ahead⟩

theorem Ordered.push (h : jb.Ordered) (now : Nat) (packet : VoicePacket) : (jb.push now packet).Ordered := by
  have hNoted := h.noteFirstPacket now
  rcases push_cases now packet h.fits with
    ⟨-, hPush⟩ | ⟨hLate, hRoom, hPush⟩ | ⟨hLate, hNew, hFull, hPush⟩
  · rw [hPush]
    exact hNoted
  · rw [hPush]
    refine ⟨?_, labelled_keep hNoted.labelled packet, ahead_keep hNoted.ahead hLate⟩
    rcases hRoom with hMem | hRoom
    · exact Nat.le_trans (Nat.le_of_eq (size_insert_of_mem hMem)) h.fits
    · exact Nat.le_trans Std.TreeMap.size_insert_le hRoom
  · have hSize : ((jb.noteFirstPacket now).keep packet).buffer.size = jb.buffer.size + 1 :=
      size_insert_of_not_mem hNew
    have hPos : 0 < ((jb.noteFirstPacket now).keep packet).buffer.size := by
      rw [hSize]
      exact Nat.succ_pos _
    rw [hPush]
    refine ⟨?_, ?_, ?_⟩
    · rw [size_trimOnce hPos, hSize, hFull]
      exact Nat.le_refl _
    · intro seq found hFound
      exact labelled_keep hNoted.labelled packet seq found (getElem?_trimOnce hFound)
    · intro hDone seq hSeq
      obtain ⟨first, hFirst, hLt, -⟩ := mem_trimOnce hPos hSeq
      have hNext := ahead_keep hNoted.ahead hLate hDone first hFirst
      have hDone' : jb.initialFillDone = true := hDone
      change (if jb.initialFillDone then jb.nextPlaybackSeq + 1 else jb.nextPlaybackSeq) ≤ seq
      rw [if_pos hDone']
      exact next_le_of_lt (UInt32.lt_of_le_of_lt hNext hLt)

theorem Ordered.started (h : jb.Ordered) : jb.started.Ordered := by
  rw [JitterBuffer.started]
  split
  · exact h
  · refine ⟨h.fits, h.labelled, fun _ seq hSeq => ?_⟩
    obtain ⟨first, hFirst⟩ := exists_firstKey? hSeq
    rw [hFirst]
    exact (firstKey?_eq_some_iff.mp hFirst).2 seq hSeq

theorem Ordered.takeNext (h : jb.Ordered) : jb.takeNext.1.Ordered := by
  rw [JitterBuffer.takeNext]
  split
  · refine ⟨Nat.le_trans Std.TreeMap.size_erase_le h.fits, fun seq found hFound => ?_, fun hDone seq hSeq => ?_⟩
    · rw [Std.TreeMap.getElem?_erase] at hFound
      split at hFound
      · cases hFound
      · exact h.labelled seq found hFound
    · obtain ⟨hNe, hMem⟩ := mem_erase_iff.mp hSeq
      exact next_le_of_lt (UInt32.lt_of_le_of_ne (h.ahead hDone seq hMem) (Ne.symm hNe))
  · exact h

theorem Ordered.pop (h : jb.Ordered) (now : Nat) : (jb.pop now).1.Ordered := by
  by_cases hReady : jb.Ready now
  · rw [pop_of_ready hReady]
    exact h.started.takeNext
  · rw [pop_of_not_ready hReady]
    exact h

theorem Ordered.after (h : jb.Ordered) : ∀ call : Call, (jb.after call).Ordered
  | .push now packet => h.push now packet
  | .pop now => h.pop now
  | .peek => h

theorem Ordered.reset : jb.reset.Ordered := Ordered.empty rfl

theorem started_of_done (h : jb.initialFillDone = true) : jb.started = jb := if_pos h

theorem done_started : jb.started.initialFillDone = true := by
  rw [started]
  split
  · assumption
  · rfl

theorem started_buffer : jb.started.buffer = jb.buffer := by
  rw [started]
  split <;> rfl

/-- What `takeNext` returns is the packet with the expected number. -/
theorem takeNext_cases (jb : JitterBuffer) :
    (jb.nextPlaybackSeq ∉ jb.buffer ∧ jb.takeNext = (jb, none)) ∨
    ∃ packet, jb.buffer[jb.nextPlaybackSeq]? = some packet ∧
      jb.takeNext = ({ jb with
        buffer := jb.buffer.erase jb.nextPlaybackSeq
        nextPlaybackSeq := jb.nextPlaybackSeq + 1 }, some packet) := by
  rw [takeNext]
  cases hFound : jb.buffer[jb.nextPlaybackSeq]? with
  | none =>
    refine .inl ⟨fun hMem => ?_, rfl⟩
    obtain ⟨packet, hPacket⟩ := mem_iff_getElem?.mp hMem
    rw [hFound] at hPacket
    cases hPacket
  | some packet => exact .inr ⟨packet, rfl, rfl⟩

/-! ### Sequence numbers that do not wrap -/

def Below (jb : JitterBuffer) : Prop := ∀ seq ∈ jb.buffer, seq.toNat < 2 ^ 32 - 1

/-- The packet of the call, if it pushes one. -/
def Call.packet? : Call → Option VoicePacket
  | .push _ packet => some packet
  | .pop _ => none
  | .peek => none

theorem mem_push {seq : UInt32} (h : jb.Ordered) (hSeq : seq ∈ (jb.push now packet).buffer) :
    seq = packet.sequence ∨ seq ∈ jb.buffer := by
  rcases push_cases now packet h.fits with ⟨-, hPush⟩ | ⟨-, -, hPush⟩ | ⟨-, hNew, -, hPush⟩
  · rw [hPush] at hSeq
    exact .inr hSeq
  · rw [hPush] at hSeq
    exact mem_insert_iff.mp hSeq
  · rw [hPush] at hSeq
    obtain ⟨-, -, -, hMem⟩ := mem_trimOnce (size_pos_of_mem (mem_insert_iff.mpr (.inl rfl))) hSeq
    exact mem_insert_iff.mp hMem

theorem mem_pop {seq : UInt32} (hSeq : seq ∈ (jb.pop now).1.buffer) : seq ∈ jb.buffer := by
  by_cases hReady : jb.Ready now
  · rw [pop_of_ready hReady] at hSeq
    rw [← started_buffer]
    rcases takeNext_cases jb.started with ⟨-, hTake⟩ | ⟨packet, -, hTake⟩
    · rw [hTake] at hSeq
      exact hSeq
    · rw [hTake] at hSeq
      exact (mem_erase_iff.mp hSeq).2
  · rw [pop_of_not_ready hReady] at hSeq
    exact hSeq

theorem Below.after (h : jb.Below) (hOrdered : jb.Ordered) (call : Call)
    (hPacket : ∀ packet, call.packet? = some packet → packet.sequence.toNat < 2 ^ 32 - 1) : (jb.after call).Below := by
  intro seq hSeq
  cases call with
  | push now packet =>
    rcases mem_push hOrdered hSeq with rfl | hOld
    · exact hPacket packet rfl
    · exact h seq hOld
  | pop now => exact h seq (mem_pop hSeq)
  | peek => exact h seq hSeq

/-- Started playback goes on from the expected number, which never goes back, and a packet that is
returned has a number between the one expected before and the one expected afterwards. -/
structure Advances (jb later : JitterBuffer) (returned : Option VoicePacket) : Prop where
  done : jb.initialFillDone = true → later.initialFillDone = true
  onward : jb.initialFillDone = true → jb.nextPlaybackSeq ≤ later.nextPlaybackSeq
  returns : ∀ packet, returned = some packet → later.initialFillDone = true ∧
    packet.sequence < later.nextPlaybackSeq ∧
    (jb.initialFillDone = true → jb.nextPlaybackSeq ≤ packet.sequence)

theorem advances_of_kept {later : JitterBuffer} (hDone : later.initialFillDone = jb.initialFillDone)
    (hNext : jb.initialFillDone = true → jb.nextPlaybackSeq ≤ later.nextPlaybackSeq) : Advances jb later none where
  done h := hDone.trans h
  onward := hNext
  returns _ h := nomatch h

theorem push_advances (h : jb.Ordered) (hBelow : jb.Below) (hPacket : packet.sequence.toNat < 2 ^ 32 - 1) :
    Advances jb (jb.push now packet) none := by
  rcases push_cases now packet h.fits with ⟨-, hPush⟩ | ⟨-, -, hPush⟩ | ⟨hLate, hNew, -, hPush⟩
  · rw [hPush]
    exact advances_of_kept rfl fun _ => UInt32.le_refl _
  · rw [hPush]
    exact advances_of_kept rfl fun _ => UInt32.le_refl _
  · rw [hPush]
    refine advances_of_kept rfl fun hDone => ?_
    change jb.nextPlaybackSeq ≤ if jb.initialFillDone then jb.nextPlaybackSeq + 1 else jb.nextPlaybackSeq
    rw [if_pos hDone]
    have hNext : jb.nextPlaybackSeq ≤ packet.sequence := UInt32.not_lt.mp fun hLt => hLate ⟨hDone, hLt⟩
    exact UInt32.le_of_lt (lt_next (Nat.lt_of_le_of_lt (UInt32.le_iff_toNat_le.mp hNext) hPacket))

theorem pop_advances (h : jb.Ordered) (hBelow : jb.Below) : Advances jb (jb.pop now).1 (jb.pop now).2 := by
  by_cases hReady : jb.Ready now
  · rw [pop_of_ready hReady]
    have hSame : jb.initialFillDone = true → jb.nextPlaybackSeq = jb.started.nextPlaybackSeq := fun hDone => by
      rw [started_of_done hDone]
    rcases takeNext_cases jb.started with ⟨-, hTake⟩ | ⟨packet, hFound, hTake⟩
    · rw [hTake]
      refine ⟨fun _ => done_started, fun hDone => ?_, fun _ hNone => nomatch hNone⟩
      rw [hSame hDone]
      exact UInt32.le_refl _
    · rw [hTake]
      have hMem : jb.started.nextPlaybackSeq ∈ jb.buffer := by
        rw [← started_buffer]
        exact mem_iff_getElem?.mpr ⟨packet, hFound⟩
      have hNext := lt_next (hBelow _ hMem)
      refine ⟨fun _ => done_started, fun hDone => ?_, fun returned hReturned => ?_⟩
      · rw [hSame hDone]
        exact UInt32.le_of_lt hNext
      · cases hReturned
        rw [h.started.labelled _ packet hFound]
        exact ⟨done_started, hNext, fun hDone => by rw [hSame hDone]; exact UInt32.le_refl _⟩
  · rw [pop_of_not_ready hReady]
    exact advances_of_kept rfl fun _ => UInt32.le_refl _

theorem run_advances (h : jb.Ordered) (hBelow : jb.Below) (call : Call)
    (hPacket : ∀ packet, call.packet? = some packet → packet.sequence.toNat < 2 ^ 32 - 1) :
    Advances jb (jb.after call) (call.run jb).2 := by
  cases call with
  | push now packet => exact push_advances h hBelow (hPacket packet rfl)
  | pop now => exact pop_advances h hBelow
  | peek => exact advances_of_kept rfl fun _ => UInt32.le_refl _

/-- By induction over the calls, from a buffer in any state: what comes out later has a number that
was not passed before. -/
theorem popped_increasing (calls : List Call) (h : jb.Ordered) (hBelow : jb.Below)
    (hPackets : ∀ call ∈ calls, ∀ packet, call.packet? = some packet → packet.sequence.toNat < 2 ^ 32 - 1) :
    ((popped jb calls).Pairwise fun earlier later => earlier.sequence < later.sequence) ∧
      (jb.initialFillDone = true → ∀ packet ∈ popped jb calls, jb.nextPlaybackSeq ≤ packet.sequence) := by
  induction calls generalizing jb with
  | nil => exact ⟨List.Pairwise.nil, fun _ _ hMem => absurd hMem List.not_mem_nil⟩
  | cons call rest ih =>
    have hCall := hPackets call List.mem_cons_self
    have hAdvances := run_advances h hBelow call hCall
    obtain ⟨hRest, hRestNext⟩ := ih (h.after call) (hBelow.after h call hCall)
      fun other hOther => hPackets other (List.mem_cons_of_mem _ hOther)
    constructor
    · refine List.pairwise_append.mpr ⟨?_, hRest, fun earlier hEarlier later hLater => ?_⟩
      · cases (call.run jb).2 with
        | none => exact List.Pairwise.nil
        | some packet => exact List.pairwise_singleton _ packet
      · obtain ⟨hDone, hLt, -⟩ := hAdvances.returns earlier (Option.mem_toList.mp hEarlier)
        exact UInt32.lt_of_lt_of_le hLt (hRestNext hDone later hLater)
    · intro hDone packet hPacket
      rcases List.mem_append.mp hPacket with hNow | hLater
      · exact (hAdvances.returns packet (Option.mem_toList.mp hNow)).2.2 hDone
      · exact UInt32.le_trans (hAdvances.onward hDone) (hRestNext (hAdvances.done hDone) packet hLater)

theorem maxPackets_after (h : jb.Ordered) (call : Call) : (jb.after call).maxPackets = jb.maxPackets := by
  cases call with
  | push now packet =>
    change (jb.push now packet).maxPackets = jb.maxPackets
    rcases push_cases now packet h.fits with ⟨-, hPush⟩ | ⟨-, -, hPush⟩ | ⟨-, -, -, hPush⟩ <;> rw [hPush] <;> rfl
  | pop now =>
    change (jb.pop now).1.maxPackets = jb.maxPackets
    have hStarted : jb.started.maxPackets = jb.maxPackets := by
      rw [started]
      split <;> rfl
    by_cases hReady : jb.Ready now
    · rw [pop_of_ready hReady, ← hStarted]
      rcases takeNext_cases jb.started with ⟨-, hTake⟩ | ⟨packet, -, hTake⟩ <;> rw [hTake]
    · rw [pop_of_not_ready hReady]
  | peek => rfl

theorem Ordered.final (h : jb.Ordered) (calls : List Call) : (final JitterBuffer.after jb calls).Ordered := by
  induction calls generalizing jb with
  | nil => exact h
  | cons call rest ih => exact ih (h.after call)

theorem maxPackets_final (h : jb.Ordered) (calls : List Call) :
    (final JitterBuffer.after jb calls).maxPackets = jb.maxPackets := by
  induction calls generalizing jb with
  | nil => rfl
  | cons call rest ih => exact (ih (h.after call)).trans (maxPackets_after h call)

/-- Between resets packets come out in the order of their numbers, each number once, the buffer stays
within its size, and what it holds is not behind the expected number. -/
theorem playback_ordered (jb : JitterBuffer) (calls : List Call)
    (hPackets : ∀ call ∈ calls, ∀ packet, call.packet? = some packet → packet.sequence.toNat < 2 ^ 32 - 1) :
    ((popped jb.reset calls).Pairwise fun earlier later => earlier.sequence < later.sequence) ∧
    Along JitterBuffer.after (fun before call =>
      call.packet? ≠ none → (before.after call).buffer.size ≤ jb.maxPackets) jb.reset calls ∧
    ((final JitterBuffer.after jb.reset calls).initialFillDone = true →
      ∀ seq ∈ (final JitterBuffer.after jb.reset calls).buffer,
        (final JitterBuffer.after jb.reset calls).nextPlaybackSeq ≤ seq) := by
  have hBelow : jb.reset.Below := fun seq hSeq => absurd hSeq Std.TreeMap.not_mem_emptyc
  refine ⟨(popped_increasing calls Ordered.reset hBelow hPackets).1, ?_, (Ordered.reset.final calls).ahead⟩
  have hStep : ∀ (before : JitterBuffer) (call : Call), (before.Ordered ∧ before.maxPackets = jb.maxPackets) → True →
      ((before.after call).Ordered ∧ (before.after call).maxPackets = jb.maxPackets) ∧
        (call.packet? ≠ none → (before.after call).buffer.size ≤ jb.maxPackets) := by
    intro before call ⟨hOrdered, hMax⟩ _
    have hLater := (maxPackets_after hOrdered call).trans hMax
    exact ⟨⟨hOrdered.after call, hLater⟩, fun _ => hLater ▸ (hOrdered.after call).fits⟩
  exact (Along.of_invariant _ hStep ⟨Ordered.reset, rfl⟩ (Along.of_forall (fun _ _ => trivial) _ calls)).1

def samplePacket (sequence : UInt32) : VoicePacket where
  senderKey := []
  sequence := sequence
  timestamp := 0
  audioData := [0]

/-- Packets 2, 0 and 1, of which 1 arrives after playback has started. -/
def reorderedCalls : List Call :=
  [.push 0 (samplePacket 2), .push 0 (samplePacket 0), .pop 0, .push 0 (samplePacket 1), .peek, .pop 0, .pop 0]

theorem playback_ordered_reordered :
    (popped (new 0).reset reorderedCalls).map VoicePacket.sequence = [0, 1, 2] ∧
    (popped (new 0).reset reorderedCalls).Pairwise (fun earlier later => earlier.sequence < later.sequence) := by
  have hPackets : ∀ call ∈ reorderedCalls, ∀ packet, call.packet? = some packet →
      packet.sequence.toNat < 2 ^ 32 - 1 := by
    simp only [reorderedCalls, List.forall_mem_cons, Call.packet?]
    simp [samplePacket]
  exact ⟨by decide +kernel, (playback_ordered (new 0) reorderedCalls hPackets).1⟩

end Rekindle.Voice.JitterBuffer
