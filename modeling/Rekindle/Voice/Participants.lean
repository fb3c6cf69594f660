import Rekindle.Voice.ReceiveLoop

/-! # The participants of a receive loop -/
namespace Rekindle.Voice
set_option autoImplicit false
open Runs OrderedMap JitterBuffer

namespace JitterBuffer
variable {jb : JitterBuffer} {now : Nat} {packet : VoicePacket}

/-! ### What pushing and popping leaves alone -/

theorem targetDelayMs_push (hFits : jb.buffer.size ≤ jb.maxPackets) :
    (jb.push now packet).targetDelayMs = jb.targetDelayMs := by
  rcases push_cases now packet hFits with ⟨-, hPush⟩ | ⟨-, -, hPush⟩ | ⟨-, -, -, hPush⟩ <;> rw [hPush] <;> rfl

theorem firstPacketTime_push (hFits : jb.buffer.size ≤ jb.maxPackets) :
    (jb.push now packet).firstPacketTime = jb.firstPacketTime.or (some now) := by
  rcases push_cases now packet hFits with ⟨-, hPush⟩ | ⟨-, -, hPush⟩ | ⟨-, -, -, hPush⟩ <;> rw [hPush] <;> rfl

theorem initialFillDone_push (hFits : jb.buffer.size ≤ jb.maxPackets) :
    (jb.push now packet).initialFillDone = jb.initialFillDone := by
  rcases push_cases now packet hFits with ⟨-, hPush⟩ | ⟨-, -, hPush⟩ | ⟨-, -, -, hPush⟩ <;> rw [hPush] <;> rfl

theorem targetDelayMs_pop : (jb.pop now).1.targetDelayMs = jb.targetDelayMs := by
  have hStarted : jb.started.targetDelayMs = jb.targetDelayMs := by
    rw [started]
    split <;> rfl
  by_cases hReady : jb.Ready now
  · rw [pop_of_ready hReady, ← hStarted]
    rcases takeNext_cases jb.started with ⟨-, hTake⟩ | ⟨packet, -, hTake⟩ <;> rw [hTake]
  · rw [pop_of_not_ready hReady]

theorem firstPacketTime_pop : (jb.pop now).1.firstPacketTime = jb.firstPacketTime := by
  have hStarted : jb.started.firstPacketTime = jb.firstPacketTime := by
    rw [started]
    split <;> rfl
  by_cases hReady : jb.Ready now
  · rw [pop_of_ready hReady, ← hStarted]
    rcases takeNext_cases jb.started with ⟨-, hTake⟩ | ⟨packet, -, hTake⟩ <;> rw [hTake]
  · rw [pop_of_not_ready hReady]

theorem done_pop (hReady : jb.Ready now) : (jb.pop now).1.initialFillDone = true := by
  rw [pop_of_ready hReady]
  rcases takeNext_cases jb.started with ⟨-, hTake⟩ | ⟨packet, -, hTake⟩ <;> rw [hTake] <;> exact done_started

/-- A push leaves a packet in a buffer that still waits. -/
theorem held_push (hOrdered : jb.Ordered) (hMax : 0 < jb.maxPackets) (hWaiting : jb.initialFillDone = false) :
    0 < (jb.push now packet).buffer.size := by
  rcases push_cases now packet hOrdered.fits with ⟨⟨hDone, -⟩, -⟩ | ⟨-, -, hPush⟩ | ⟨-, hNew, hFull, hPush⟩
  · rw [hWaiting] at hDone
    cases hDone
  · rw [hPush]
    exact size_pos_of_mem (mem_insert_iff.mpr (.inl rfl))
  · have hSize : ((jb.noteFirstPacket now).keep packet).buffer.size = jb.buffer.size + 1 :=
      size_insert_of_not_mem hNew
    rw [hPush, size_trimOnce (hSize ▸ Nat.succ_pos _), hSize, hFull]
    exact hMax

end JitterBuffer

/-- A buffer of the loop, before its next packet. -/
structure Usable (jb : JitterBuffer) (now : Nat) : Prop where
  ordered : jb.Ordered
  capacity : jb.maxPackets = 50
  target : jb.targetDelayMs = jitterBufferMs
  since : ∀ firstTime, jb.firstPacketTime = some firstTime → firstTime ≤ now

structure ParticipantDecoder.Tracked (participant : ParticipantDecoder) (now : Nat) : Prop where
  usable : Usable participant.jitterBuffer participant.lastPacketTime
  current : participant.lastPacketTime ≤ now
  heard : ∃ firstTime, participant.jitterBuffer.firstPacketTime = some firstTime
  held : participant.jitterBuffer.initialFillDone = false → 0 < participant.jitterBuffer.buffer.size

variable {participant : ParticipantDecoder} {now : Nat} {packet : VoicePacket}

theorem Usable.new (now : Nat) : Usable (ParticipantDecoder.new now).jitterBuffer now where
  ordered := Ordered.empty rfl
  capacity := rfl
  target := rfl
  since _ h := nomatch h

theorem Usable.mono {jb : JitterBuffer} {later : Nat} (h : Usable jb now) (hLater : now ≤ later) : Usable jb later :=
  ⟨h.ordered, h.capacity, h.target, fun firstTime hFirst => Nat.le_trans (h.since firstTime hFirst) hLater⟩

theorem Usable.receive (h : Usable participant.jitterBuffer now) : (participant.receive now packet).Tracked now where
  usable := by
    refine ⟨h.ordered.push now packet, ?_, ?_, fun firstTime hFirst => ?_⟩
    · exact (maxPackets_after h.ordered (.push now packet)).trans h.capacity
    · exact (targetDelayMs_push h.ordered.fits).trans h.target
    · change (participant.jitterBuffer.push now packet).firstPacketTime = some firstTime at hFirst
      rw [firstPacketTime_push h.ordered.fits] at hFirst
      cases hBefore : participant.jitterBuffer.firstPacketTime with
      | none =>
        rw [hBefore] at hFirst
        cases hFirst
        exact Nat.le_refl now
      | some before =>
        rw [hBefore] at hFirst
        cases hFirst
        exact h.since firstTime hBefore
  current := Nat.le_refl now
  heard := by
    change ∃ firstTime, (participant.jitterBuffer.push now packet).firstPacketTime = some firstTime
    rw [firstPacketTime_push h.ordered.fits]
    cases participant.jitterBuffer.firstPacketTime with
    | none => exact ⟨now, rfl⟩
    | some before => exact ⟨before, rfl⟩
  held hWaiting := by
    refine held_push h.ordered (h.capacity ▸ Nat.zero_lt_succ 49) ?_
    exact (initialFillDone_push h.ordered.fits).symm.trans hWaiting

theorem ParticipantDecoder.Tracked.mono {later : Nat} (h : participant.Tracked now) (hLater : now ≤ later) :
    participant.Tracked later :=
  ⟨h.usable, Nat.le_trans h.current hLater, h.heard, h.held⟩

theorem tick_played (participant : ParticipantDecoder) (now : Nat) :
    (participant.tick now).2 = (participant.jitterBuffer.pop now).2 := rfl

theorem tick_cases (participant : ParticipantDecoder) (now : Nat) :
    (participantTimeout < now - participant.lastPacketTime ∧ (participant.tick now).1 = none) ∨
    ∃ left, (participant.tick now).1 = some left ∧ left.jitterBuffer = (participant.jitterBuffer.pop now).1 ∧
      left.lastPacketTime = participant.lastPacketTime := by
  by_cases hTimeout : participantTimeout < now - participant.lastPacketTime
  · exact .inl ⟨hTimeout, if_pos hTimeout⟩
  · exact .inr ⟨_, if_neg hTimeout, rfl, rfl⟩

theorem ParticipantDecoder.Tracked.tick {left : ParticipantDecoder} (h : participant.Tracked now)
    (hBuffer : left.jitterBuffer = (participant.jitterBuffer.pop now).1)
    (hTime : left.lastPacketTime = participant.lastPacketTime) : left.Tracked now where
  usable := by
    rw [hTime, hBuffer]
    refine ⟨h.usable.ordered.pop now, ?_, targetDelayMs_pop.trans h.usable.target, ?_⟩
    · exact (maxPackets_after h.usable.ordered (.pop now)).trans h.usable.capacity
    · rw [firstPacketTime_pop]
      exact h.usable.since
  current := hTime ▸ h.current
  heard := by
    rw [hBuffer, firstPacketTime_pop]
    exact h.heard
  held hWaiting := by
    rw [hBuffer] at hWaiting ⊢
    by_cases hReady : participant.jitterBuffer.Ready now
    · rw [done_pop hReady] at hWaiting
      cases hWaiting
    · rw [pop_of_not_ready hReady] at hWaiting ⊢
      exact h.held hWaiting

/-- A participant is given up only after its playback could start. -/
theorem ParticipantDecoder.Tracked.ready_of_timeout (h : participant.Tracked now)
    (hTimeout : participantTimeout < now - participant.lastPacketTime) : participant.jitterBuffer.Ready now := by
  obtain ⟨firstTime, hFirst⟩ := h.heard
  refine .inr (.inr ⟨firstTime, hFirst, ?_⟩)
  have hSince := h.usable.since firstTime hFirst
  rw [h.usable.target, elapsedMs]
  change 200 ≤ (now - firstTime) / 1000000
  rw [Nat.le_div_iff_mul_le (by decide)]
  rw [participantTimeout] at hTimeout
  omega

end Rekindle.Voice
