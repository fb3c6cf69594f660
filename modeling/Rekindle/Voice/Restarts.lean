import Mathlib.Data.List.Nodup
import Mathlib.Data.List.Perm.Subperm
import Rekindle.Voice.Participants

/-! # A sender that starts again

The packets of a restarted sender are late until their numbers reach the expected one. The proof counts
the packets that have arrived since. `New` marks them, so that the old packets can be told from them. -/
namespace Rekindle.Voice
set_option autoImplicit false
open Runs OrderedMap JitterBuffer

namespace JitterBuffer
variable {jb : JitterBuffer} {now : Nat} {packet : VoicePacket} {New : VoicePacket → Prop}
  {limit reach count : Nat}

/-- An old packet has a number that the new packets have not reached. -/
def Renewed (New : VoicePacket → Prop) (limit count : Nat) (jb : JitterBuffer) : Prop :=
  ∀ (seq : UInt32) (packet : VoicePacket), jb.buffer[seq]? = some packet →
    New packet ∨ count ≤ seq.toNat ∧ seq.toNat < limit

/-- The number that is reached next is not an old one once its packet has arrived. -/
theorem Renewed.at (h : jb.Renewed New limit count) {seq : UInt32} {found : VoicePacket}
    (hFound : jb.buffer[seq]? = some found) (hOther : seq ≠ UInt32.ofNat count) :
    New found ∨ count + 1 ≤ seq.toNat ∧ seq.toNat < limit := by
  rcases h seq found hFound with hNew | ⟨hCount, hLimit⟩
  · exact .inl hNew
  · refine .inr ⟨Nat.lt_of_le_of_ne hCount fun hEq => hOther ?_, hLimit⟩
    rw [hEq, UInt32.ofNat_toNat]

theorem Renewed.push (h : jb.Renewed New limit count) (hOrdered : jb.Ordered)
    (hSeq : packet.sequence = UInt32.ofNat count) (hNew : New packet) :
    (jb.push now packet).Renewed New limit (count + 1) := by
  have hKept (seq : UInt32) (found : VoicePacket)
      (hFound : ((jb.noteFirstPacket now).keep packet).buffer[seq]? = some found) :
      New found ∨ count + 1 ≤ seq.toNat ∧ seq.toNat < limit := by
    rw [keep, getElem?_insert_iff] at hFound
    split at hFound
    · cases hFound
      exact .inl hNew
    · rename_i hOther
      exact h.at hFound fun hEq => hOther (hEq.trans hSeq.symm)
  rcases push_cases now packet hOrdered.fits with ⟨⟨hDone, hLt⟩, hPush⟩ | ⟨-, -, hPush⟩ | ⟨-, -, -, hPush⟩
  · rw [hPush]
    intro seq found hFound
    refine h.at hFound fun hEq => ?_
    have hAhead := hOrdered.ahead hDone seq (mem_iff_getElem?.mpr ⟨found, hFound⟩)
    rw [hEq, ← hSeq] at hAhead
    exact UInt32.not_le.mpr hLt hAhead
  · rw [hPush]
    exact hKept
  · rw [hPush]
    exact fun seq found hFound => hKept seq found (getElem?_trimOnce hFound)

theorem getElem?_pop {seq : UInt32} {found : VoicePacket} (h : (jb.pop now).1.buffer[seq]? = some found) :
    jb.buffer[seq]? = some found := by
  by_cases hReady : jb.Ready now
  · rw [pop_of_ready hReady] at h
    rw [← started_buffer]
    rcases takeNext_cases jb.started with ⟨-, hTake⟩ | ⟨packet, -, hTake⟩
    · rw [hTake] at h
      exact h
    · rw [hTake, Std.TreeMap.getElem?_erase] at h
      split at h
      · cases h
      · exact h
  · rw [pop_of_not_ready hReady] at h
    exact h

theorem Renewed.pop (h : jb.Renewed New limit count) : (jb.pop now).1.Renewed New limit count :=
  fun seq found hFound => h seq found (getElem?_pop hFound)

/-! ### Catching up -/

/-- The buffer after `count` new packets, when the old ones stay below `reach`: every new packet from the
expected one on is there. -/
structure CatchingUp (New : VoicePacket → Prop) (reach count : Nat) (jb : JitterBuffer) : Prop where
  renewed : jb.Renewed New (2 ^ 32 - 1) count
  within : ∀ seq ∈ jb.buffer, seq.toNat < reach ∨ seq.toNat < count
  next : jb.initialFillDone = true → jb.nextPlaybackSeq.toNat ≤ reach ∨ jb.nextPlaybackSeq.toNat < count
  arrived : jb.initialFillDone = true → ∀ seq, jb.nextPlaybackSeq ≤ seq → seq.toNat < count → seq ∈ jb.buffer
  recent : jb.initialFillDone = false →
    10 ≤ jb.buffer.size ∨ ∀ number, reach ≤ number → number < count → UInt32.ofNat number ∈ jb.buffer

theorem CatchingUp.fresh (hCount : count ≤ reach) (now : Nat) :
    (ParticipantDecoder.new now).jitterBuffer.CatchingUp New reach count where
  renewed seq found hFound := by
    rw [ParticipantDecoder.new, JitterBuffer.new, Std.TreeMap.getElem?_emptyc] at hFound
    cases hFound
  within seq hSeq := absurd hSeq Std.TreeMap.not_mem_emptyc
  next h := nomatch h
  arrived h := nomatch h
  recent _ := .inr fun number hReach hNumber => absurd hNumber (Nat.not_lt.mpr (Nat.le_trans hCount hReach))

theorem toNat_ofNat_le (count : Nat) : (UInt32.ofNat count).toNat ≤ count := by
  rw [UInt32.toNat_ofNat']
  exact Nat.mod_le _ _

theorem eq_ofNat_of_toNat {seq : UInt32} (h : seq.toNat = count) : seq = UInt32.ofNat count := by
  rw [← h, UInt32.ofNat_toNat]

/-- A number below the next count is the one that arrives, or was there before. -/
theorem below_succ {seq : UInt32} (h : seq.toNat < count + 1) : seq.toNat < count ∨ seq = UInt32.ofNat count := by
  rcases Nat.lt_succ_iff_lt_or_eq.mp h with hLt | hEq
  · exact .inl hLt
  · exact .inr (eq_ofNat_of_toNat hEq)

theorem CatchingUp.push (h : jb.CatchingUp New reach count) (hOrdered : jb.Ordered) (hMax : 10 ≤ jb.maxPackets)
    (hSeq : packet.sequence = UInt32.ofNat count) (hNew : New packet) :
    (jb.push now packet).CatchingUp New reach (count + 1) := by
  have hRenewed : (jb.push now packet).Renewed New (2 ^ 32 - 1) (count + 1) := h.renewed.push hOrdered hSeq hNew
  have hWithin : ∀ seq ∈ ((jb.noteFirstPacket now).keep packet).buffer, seq.toNat < reach ∨ seq.toNat < count + 1 := by
    intro seq hMem
    rcases mem_insert_iff.mp hMem with hEq | hOld
    · rw [hEq, hSeq]
      exact .inr (Nat.lt_succ_of_le (toNat_ofNat_le count))
    · exact (h.within seq hOld).imp id Nat.lt_succ_of_lt
  have hArrived (hDone : jb.initialFillDone = true) (seq : UInt32) (hAhead : jb.nextPlaybackSeq ≤ seq)
      (hBelow : seq.toNat < count + 1) : seq ∈ ((jb.noteFirstPacket now).keep packet).buffer := by
    rcases below_succ hBelow with hLt | hEq
    · exact mem_insert_iff.mpr (.inr (h.arrived hDone seq hAhead hLt))
    · exact mem_insert_iff.mpr (.inl (hEq.trans hSeq.symm))
  rcases push_cases now packet hOrdered.fits with
    ⟨⟨hDone, hLt⟩, hPush⟩ | ⟨-, -, hPush⟩ | ⟨hLate, hFresh, hFull, hPush⟩
  · rw [hPush] at hRenewed ⊢
    refine ⟨hRenewed, fun seq hMem => (h.within seq hMem).imp id Nat.lt_succ_of_lt,
      fun _ => (h.next hDone).imp id Nat.lt_succ_of_lt, fun _ seq hAhead hBelow => ?_, fun hWaiting => ?_⟩
    · rcases below_succ hBelow with hLow | hEq
      · exact h.arrived hDone seq hAhead hLow
      · rw [hEq, ← hSeq] at hAhead
        exact absurd hAhead (UInt32.not_le.mpr hLt)
    · exact absurd (hDone.symm.trans hWaiting) Bool.noConfusion
  · rw [hPush] at hRenewed ⊢
    refine ⟨hRenewed, hWithin, fun hDone => (h.next hDone).imp id Nat.lt_succ_of_lt, hArrived, fun hWaiting => ?_⟩
    rcases h.recent hWaiting with hMany | hRecent
    · exact .inl (Nat.le_trans hMany Std.TreeMap.size_le_size_insert)
    · refine .inr fun number hReach hNumber => mem_insert_iff.mpr ?_
      rcases Nat.lt_succ_iff_lt_or_eq.mp hNumber with hLow | rfl
      · exact .inr (hRecent number hReach hLow)
      · exact .inl hSeq.symm
  · rw [hPush] at hRenewed ⊢
    have hPos : 0 < ((jb.noteFirstPacket now).keep packet).buffer.size :=
      size_pos_of_mem (mem_insert_iff.mpr (.inl rfl))
    have hSize : ((jb.noteFirstPacket now).keep packet).trimOnce.buffer.size = jb.maxPackets := by
      have hKept : ((jb.noteFirstPacket now).keep packet).buffer.size = jb.buffer.size + 1 :=
        size_insert_of_not_mem hFresh
      rw [size_trimOnce hPos, hKept, hFull, Nat.add_sub_cancel]
    obtain ⟨first, hFirst, hLeast, hErase⟩ := trimOnce_first hPos
    obtain ⟨other, hOther⟩ := exists_mem_of_size_pos (hSize ▸ Nat.lt_of_lt_of_le (Nat.zero_lt_succ 9) hMax)
    obtain ⟨least, hLeastMem, hLeastLt, hOtherMem⟩ := mem_trimOnce hPos hOther
    have hAhead := ahead_keep (hOrdered.noteFirstPacket now).ahead hLate
    have hBeyond (hDone : jb.initialFillDone = true) : jb.nextPlaybackSeq < other :=
      UInt32.lt_of_le_of_lt (hAhead hDone least hLeastMem) hLeastLt
    have hExpect (hDone : jb.initialFillDone = true) :
        ((jb.noteFirstPacket now).keep packet).trimOnce.nextPlaybackSeq = jb.nextPlaybackSeq + 1 := if_pos hDone
    refine ⟨hRenewed, fun seq hMem => ?_, fun hDone => ?_, fun hDone seq hNext hBelow => ?_, fun _ => ?_⟩
    · obtain ⟨-, -, -, hKept⟩ := mem_trimOnce hPos hMem
      exact hWithin seq hKept
    · -- the packets that are left lie beyond the new expected number
      rw [hExpect hDone]
      have hReach := UInt32.le_iff_toNat_le.mp (next_le_of_lt (hBeyond hDone))
      rcases hWithin other hOtherMem with hLow | hLow
      · exact .inl (Nat.le_trans hReach (Nat.le_of_lt hLow))
      · exact .inr (Nat.lt_of_le_of_lt hReach hLow)
    · rw [hExpect hDone] at hNext
      have hOnward : jb.nextPlaybackSeq < seq := UInt32.lt_of_lt_of_le (lt_next_of_lt (hBeyond hDone)) hNext
      rw [hErase]
      refine mem_erase_iff.mpr ⟨fun hEq => ?_, hArrived hDone seq (UInt32.le_of_lt hOnward) hBelow⟩
      have hExpected : jb.nextPlaybackSeq ∈ ((jb.noteFirstPacket now).keep packet).buffer :=
        hArrived hDone _ (UInt32.le_refl _) (Nat.lt_trans (UInt32.lt_iff_toNat_lt.mp hOnward) hBelow)
      exact UInt32.not_le.mpr (hEq ▸ hOnward) (hLeast _ hExpected)
    · exact .inl (hSize ▸ hMax)

/-- An old packet that is played has a number that the new packets have not reached. -/
theorem catchingUp_of_old (hRenewed : jb.Renewed New (2 ^ 32 - 1) count)
    (hWithin : ∀ seq ∈ jb.buffer, seq.toNat < reach ∨ seq.toNat < count) (hDone : jb.initialFillDone = true)
    (hMem : jb.nextPlaybackSeq ∈ jb.buffer)
    (hOld : count ≤ jb.nextPlaybackSeq.toNat ∧ jb.nextPlaybackSeq.toNat < 2 ^ 32 - 1) :
    CatchingUp New reach count { jb with
      buffer := jb.buffer.erase jb.nextPlaybackSeq
      nextPlaybackSeq := jb.nextPlaybackSeq + 1 } ∧ count ≤ reach := by
  have hReach : jb.nextPlaybackSeq.toNat < reach :=
    (hWithin _ hMem).resolve_right (Nat.not_lt.mpr hOld.1)
  have hOnward := lt_next hOld.2
  refine ⟨⟨?_, ?_, ?_, ?_, ?_⟩, Nat.le_trans hOld.1 (Nat.le_of_lt hReach)⟩
  · intro seq found hFound
    rw [Std.TreeMap.getElem?_erase] at hFound
    split at hFound
    · cases hFound
    · exact hRenewed seq found hFound
  · intro seq hSeq
    exact hWithin seq (mem_erase_iff.mp hSeq).2
  · intro _
    refine .inl ?_
    rw [UInt32.toNat_add]
    exact Nat.le_trans (Nat.mod_le _ _) hReach
  · intro _ seq hNext hBelow
    have hBeyond := UInt32.lt_iff_toNat_lt.mp (UInt32.lt_of_lt_of_le hOnward hNext)
    exact absurd hBelow (Nat.not_lt.mpr (Nat.le_trans hOld.1 (Nat.le_of_lt hBeyond)))
  · intro hWaiting
    exact absurd (hDone.symm.trans hWaiting) Bool.noConfusion

/-- A tick plays a new packet, or what it plays has a number that the new packets have not reached. -/
theorem CatchingUp.pop (h : jb.CatchingUp New reach count) (hHeld : jb.initialFillDone = false → 0 < jb.buffer.size) :
    (∃ packet, (jb.pop now).2 = some packet ∧ New packet) ∨
    (jb.pop now).1.CatchingUp New reach count ∧ (jb.Ready now → count ≤ reach) := by
  by_cases hReady : jb.Ready now
  · rw [pop_of_ready hReady]
    have hRenewed : jb.started.Renewed New (2 ^ 32 - 1) count := fun seq found hFound =>
      h.renewed seq found (started_buffer ▸ hFound)
    have hWithin : ∀ seq ∈ jb.started.buffer, seq.toNat < reach ∨ seq.toNat < count := fun seq hSeq =>
      h.within seq (started_buffer ▸ hSeq)
    rcases takeNext_cases jb.started with ⟨hMissing, hTake⟩ | ⟨packet, hFound, hTake⟩
    · by_cases hDone : jb.initialFillDone = true
      · rw [hTake]
        rw [started_of_done hDone] at hMissing ⊢
        refine .inr ⟨h, fun _ => Nat.not_lt.mp fun hPassed => hMissing ?_⟩
        refine h.arrived hDone _ (UInt32.le_refl _) ?_
        exact (h.next hDone).elim (fun hReach => Nat.lt_of_le_of_lt hReach hPassed) id
      · -- playback that starts finds the first packet of the buffer
        rw [Bool.not_eq_true] at hDone
        obtain ⟨seq, hSeq⟩ := exists_mem_of_size_pos (hHeld hDone)
        obtain ⟨first, hFirst⟩ := exists_firstKey? hSeq
        have hNext : jb.started.nextPlaybackSeq = first := by
          rw [started, hDone, hFirst]
          rfl
        rw [hNext, started_buffer] at hMissing
        exact absurd (firstKey?_eq_some_iff.mp hFirst).1 hMissing
    · rw [hTake]
      rcases hRenewed _ packet hFound with hNew | hOld
      · exact .inl ⟨packet, rfl, hNew⟩
      · obtain ⟨hLater, hReach⟩ :=
          catchingUp_of_old hRenewed hWithin done_started (mem_iff_getElem?.mpr ⟨packet, hFound⟩) hOld
        exact .inr ⟨hLater, fun _ => hReach⟩
  · rw [pop_of_not_ready hReady]
    exact .inr ⟨h, fun hNow => absurd hNow hReady⟩

/-- Ten numbers in a row are different numbers. -/
theorem ten_le_size (h : ∀ number, reach ≤ number → number < reach + 10 → UInt32.ofNat number ∈ jb.buffer) :
    10 ≤ jb.buffer.size := by
  have hNodup : ((List.range' reach 10).map UInt32.ofNat).Nodup := by
    refine List.Nodup.map_on (fun one hOne other hOther hEq => ?_) List.nodup_range'
    rw [List.mem_range'_1] at hOne hOther
    have hNat := congrArg UInt32.toNat hEq
    rw [UInt32.toNat_ofNat', UInt32.toNat_ofNat'] at hNat
    omega
  have hSubset : (List.range' reach 10).map UInt32.ofNat ⊆ jb.buffer.keys := by
    intro seq hSeq
    obtain ⟨number, hNumber, rfl⟩ := List.mem_map.mp hSeq
    rw [List.mem_range'_1] at hNumber
    exact Std.TreeMap.mem_keys.mpr (h number hNumber.1 hNumber.2)
  have hLength := (List.subperm_of_subset hNodup hSubset).length_le
  rwa [List.length_map, List.length_range', Std.TreeMap.length_keys] at hLength

theorem CatchingUp.ready (h : jb.CatchingUp New reach count) (hTarget : jb.targetDelayMs = jitterBufferMs)
    (hCount : reach + 10 ≤ count) : jb.Ready now := by
  by_cases hDone : jb.initialFillDone = true
  · exact .inl hDone
  · refine .inr (.inl ?_)
    have hTen : jb.targetPackets = 10 := by
      rw [targetPackets, hTarget]
      rfl
    rw [hTen]
    rcases h.recent (Bool.not_eq_true _ ▸ hDone) with hMany | hRecent
    · exact hMany
    · exact ten_le_size fun number hReach hNumber => hRecent number hReach (Nat.lt_of_lt_of_le hNumber hCount)

end JitterBuffer

end Rekindle.Voice
