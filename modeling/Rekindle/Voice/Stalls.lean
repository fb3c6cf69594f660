import Rekindle.Voice.PlaybackOrder

/-! # Playback after a lost packet

While packets keep arriving, the receiver pushes one and pops once for each of them. -/
namespace Rekindle.Voice.JitterBuffer
set_option autoImplicit false
open Runs OrderedMap

structure Round where
  arrival : Nat
  packet : VoicePacket
  playback : Nat
deriving DecidableEq, Repr

def Round.calls (round : Round) : List Call := [.push round.arrival round.packet, .pop round.playback]

/-- What a started buffer is after a round and what the round plays. -/
def Round.play (jb : JitterBuffer) (round : Round) : JitterBuffer × Option VoicePacket :=
  (jb.push round.arrival round.packet).pop round.playback

def afterRound (jb : JitterBuffer) (round : Round) : JitterBuffer := (round.play jb).1

def playedIn (jb : JitterBuffer) (rounds : List Round) : List VoicePacket := popped jb (rounds.flatMap Round.calls)

/-- Every packet that arrives is at or beyond the expected one. -/
def Arriving (jb : JitterBuffer) (rounds : List Round) : Prop :=
  Along afterRound (fun before round => before.nextPlaybackSeq ≤ round.packet.sequence) jb rounds

/-- A bounded number of rounds plays a packet, whichever packets arrive. -/
def KeepsPlaying (jb : JitterBuffer) : Prop :=
  ∃ bound, ∀ rounds : List Round, bound ≤ rounds.length → Arriving jb rounds → playedIn jb rounds ≠ []

/-- The expected packet is there and stays there, or its successor is there to take its place. At the
end of the numbers there may be no other packet left that could arrive. -/
def CanPlayOn (jb : JitterBuffer) : Prop :=
  jb.nextPlaybackSeq.toNat = 2 ^ 32 - 1 ∨
  jb.nextPlaybackSeq ∈ jb.buffer ∧
    (jb.buffer.size < jb.maxPackets ∨ jb.nextPlaybackSeq + 1 ∈ jb.buffer ∨
      ∀ seq, jb.nextPlaybackSeq ≤ seq → seq ∉ jb.buffer → seq = jb.nextPlaybackSeq + 1)

variable {jb : JitterBuffer} {round : Round}

theorem playedIn_cons (rounds : List Round) :
    playedIn jb (round :: rounds) = (round.play jb).2.toList ++ playedIn (jb.afterRound round) rounds := by
  simp only [playedIn, List.flatMap_cons, Round.calls, List.cons_append, List.nil_append, popped, Call.run,
    Option.toList_none]
  rfl

theorem pop_of_done (h : jb.initialFillDone = true) (now : Nat) : jb.pop now = jb.takeNext := if_pos h

theorem pop_of_missing {now : Nat} (hDone : jb.initialFillDone = true) (h : jb.nextPlaybackSeq ∉ jb.buffer) :
    jb.pop now = (jb, none) := by
  rw [pop_of_done hDone, takeNext, Std.TreeMap.getElem?_eq_none h]

theorem pop_of_present {now : Nat} (hDone : jb.initialFillDone = true) (h : jb.nextPlaybackSeq ∈ jb.buffer) :
    (jb.pop now).2 ≠ none := by
  obtain ⟨packet, hPacket⟩ := mem_iff_getElem?.mp h
  rw [pop_of_done hDone, takeNext, hPacket]
  exact Option.some_ne_none packet

/-! ### A stalled buffer -/

/-- Playback has started, and the expected packet is not there. -/
structure Stalled (jb : JitterBuffer) : Prop where
  done : jb.initialFillDone = true
  missing : jb.nextPlaybackSeq ∉ jb.buffer

/-- The trimming loop moves the expected number by one, and the packets that are left are further ahead. -/
theorem Stalled.trimOnce (h : jb.Stalled) (hAhead : ∀ seq ∈ jb.buffer, jb.nextPlaybackSeq ≤ seq)
    (hPos : 0 < jb.buffer.size) : jb.trimOnce.Stalled := by
  refine ⟨h.done, fun hNext => ?_⟩
  rw [next_trimOnce h.done] at hNext
  obtain ⟨first, hFirst, hLt, -⟩ := mem_trimOnce hPos hNext
  have hBefore : jb.nextPlaybackSeq < first :=
    UInt32.lt_of_le_of_ne (hAhead first hFirst) fun hEq => h.missing (hEq ▸ hFirst)
  exact UInt32.lt_irrefl _ (UInt32.lt_of_lt_of_le hLt (next_le_of_lt hBefore))

theorem Stalled.keep (h : jb.Stalled) {packet : VoicePacket} (hOther : packet.sequence ≠ jb.nextPlaybackSeq) :
    (jb.keep packet).Stalled := by
  refine ⟨h.done, fun hNext => ?_⟩
  rcases mem_insert_iff.mp hNext with hEq | hMem
  · exact hOther hEq.symm
  · exact h.missing hMem

/-- Only the packet with the expected number itself ends a stall. -/
theorem Stalled.push (h : jb.Stalled) (hOrdered : jb.Ordered) {now : Nat} {packet : VoicePacket}
    (hOther : packet.sequence ≠ jb.nextPlaybackSeq) : (jb.push now packet).Stalled := by
  have hNoted : (jb.noteFirstPacket now).Stalled := ⟨h.done, h.missing⟩
  rcases push_cases now packet hOrdered.fits with ⟨-, hPush⟩ | ⟨-, -, hPush⟩ | ⟨hLate, -, -, hPush⟩
  · rw [hPush]
    exact hNoted
  · rw [hPush]
    exact hNoted.keep hOther
  · rw [hPush]
    exact (hNoted.keep hOther).trimOnce (ahead_keep (hOrdered.noteFirstPacket now).ahead hLate h.done)
      (size_pos_of_mem (mem_insert_iff.mpr (.inl rfl)))

theorem Stalled.play (h : jb.Stalled) (hOrdered : jb.Ordered)
    (hOther : round.packet.sequence ≠ jb.nextPlaybackSeq) :
    round.play jb = (jb.push round.arrival round.packet, none) := by
  have hPushed : (jb.push round.arrival round.packet).Stalled := h.push hOrdered hOther
  exact pop_of_missing hPushed.done hPushed.missing

theorem Ordered.afterRound (h : jb.Ordered) (round : Round) : (jb.afterRound round).Ordered :=
  (h.push round.arrival round.packet).pop round.playback

/-- A stall lasts, however many packets arrive, until one carries just the number expected at that time. -/
theorem stalled_run (rounds : List Round) (h : jb.Stalled) (hOrdered : jb.Ordered)
    (hOthers : Along JitterBuffer.afterRound
      (fun before round => round.packet.sequence ≠ before.nextPlaybackSeq) jb rounds) :
    playedIn jb rounds = [] := by
  induction rounds generalizing jb with
  | nil => rfl
  | cons round rest ih =>
    obtain ⟨hOther, hRest⟩ := hOthers
    have hPlay := h.play hOrdered hOther
    have hAfter : jb.afterRound round = jb.push round.arrival round.packet := congrArg Prod.fst hPlay
    have hLater : (jb.afterRound round).Stalled := by
      rw [hAfter]
      exact h.push hOrdered hOther
    rw [playedIn_cons, hPlay, ih hLater (hOrdered.afterRound round) hRest]
    rfl

/-! ### The stream that goes on after a loss -/

theorem next_push (hOrdered : jb.Ordered) (hDone : jb.initialFillDone = true) {now : Nat} {packet : VoicePacket} :
    (jb.push now packet).nextPlaybackSeq.toNat ≤ jb.nextPlaybackSeq.toNat + 1 := by
  rcases push_cases now packet hOrdered.fits with ⟨-, hPush⟩ | ⟨-, -, hPush⟩ | ⟨-, -, -, hPush⟩
  · rw [hPush]
    exact Nat.le_succ _
  · rw [hPush]
    exact Nat.le_succ _
  · have hDone' : ((jb.noteFirstPacket now).keep packet).initialFillDone = true := hDone
    rw [hPush, next_trimOnce hDone', UInt32.toNat_add]
    exact Nat.mod_le _ _

/-- One packet after the other, in order, from a number on. -/
def inOrder (packetOf : UInt32 → VoicePacket) (first : Nat) (count : Nat) : List Round :=
  (List.range' first count).map fun seq => ⟨seq, packetOf (UInt32.ofNat seq), seq⟩

/-- Once a packet is lost, the stream that goes on in order and without another loss is not heard again. -/
theorem lost_stream_unheard {packetOf : UInt32 → VoicePacket} (hNumbered : ∀ seq, (packetOf seq).sequence = seq)
    (first count : Nat) (hStalled : jb.Stalled) (hOrdered : jb.Ordered) (hNext : jb.nextPlaybackSeq.toNat < first)
    (hRange : first + count ≤ 2 ^ 32) : playedIn jb (inOrder packetOf first count) = [] := by
  refine stalled_run _ hStalled hOrdered ?_
  induction count generalizing first jb with
  | zero => trivial
  | succ count ih =>
    have hFirst : (UInt32.ofNat first).toNat = first := UInt32.toNat_ofNat_of_lt' (by rw [UInt32.size]; omega)
    have hOther : (packetOf (UInt32.ofNat first)).sequence ≠ jb.nextPlaybackSeq := by
      rw [hNumbered]
      intro hEq
      rw [← hEq, hFirst] at hNext
      exact Nat.lt_irrefl _ hNext
    refine ⟨hOther, ?_⟩
    have hAfter : jb.afterRound ⟨first, packetOf (UInt32.ofNat first), first⟩ =
        jb.push first (packetOf (UInt32.ofNat first)) := congrArg Prod.fst (hStalled.play hOrdered hOther)
    rw [hAfter]
    refine ih (first + 1) (hStalled.push hOrdered hOther) (hOrdered.push _ _) ?_ (by omega)
    exact Nat.lt_of_le_of_lt (next_push hOrdered hStalled.done) (Nat.succ_lt_succ hNext)

/-- A packet beyond the expected one that arrives again and again does not end a stall either. -/
theorem repeated_unheard (round : Round) (count : Nat) (hStalled : jb.Stalled) (hOrdered : jb.Ordered)
    (hBeyond : jb.nextPlaybackSeq < round.packet.sequence)
    (hRoom : round.packet.sequence ∈ jb.buffer ∨ jb.buffer.size < jb.maxPackets) :
    Arriving jb (List.replicate count round) ∧ playedIn jb (List.replicate count round) = [] := by
  induction count generalizing jb with
  | zero => exact ⟨trivial, rfl⟩
  | succ count ih =>
    have hOther : round.packet.sequence ≠ jb.nextPlaybackSeq := fun hEq =>
      UInt32.lt_irrefl _ (hEq ▸ hBeyond)
    have hPlay := hStalled.play hOrdered hOther
    have hKept : jb.push round.arrival round.packet = (jb.noteFirstPacket round.arrival).keep round.packet := by
      rcases push_cases round.arrival round.packet hOrdered.fits with
        ⟨⟨-, hLt⟩, -⟩ | ⟨-, -, hPush⟩ | ⟨-, hNew, hFull, -⟩
      · exact absurd hLt (UInt32.lt_asymm hBeyond)
      · exact hPush
      · rcases hRoom with hMem | hLt
        · exact absurd hMem hNew
        · exact absurd hFull (Nat.ne_of_lt hLt)
    have hAfter : jb.afterRound round = (jb.noteFirstPacket round.arrival).keep round.packet :=
      (congrArg Prod.fst hPlay).trans hKept
    have hLater : (jb.afterRound round).Stalled := by
      rw [hAfter, ← hKept]
      exact hStalled.push hOrdered hOther
    have hMem : round.packet.sequence ∈ (jb.afterRound round).buffer := by
      rw [hAfter]
      exact mem_insert_iff.mpr (.inl rfl)
    have hSame : (jb.afterRound round).nextPlaybackSeq = jb.nextPlaybackSeq := by rw [hAfter]; rfl
    obtain ⟨hArriving, hSilent⟩ := ih hLater (hOrdered.afterRound round) (hSame ▸ hBeyond) (.inl hMem)
    rw [List.replicate_succ]
    refine ⟨⟨UInt32.le_of_lt hBeyond, hArriving⟩, ?_⟩
    rw [playedIn_cons, hPlay, hSilent]
    rfl

theorem Stalled.not_keepsPlaying (hStalled : jb.Stalled) (hOrdered : jb.Ordered) (round : Round)
    (hBeyond : jb.nextPlaybackSeq < round.packet.sequence)
    (hRoom : round.packet.sequence ∈ jb.buffer ∨ jb.buffer.size < jb.maxPackets) : ¬ jb.KeepsPlaying := by
  rintro ⟨bound, hPlays⟩
  obtain ⟨hArriving, hSilent⟩ := repeated_unheard round bound hStalled hOrdered hBeyond hRoom
  exact hPlays _ (Nat.le_of_eq List.length_replicate.symm) hArriving hSilent

/-! ### When playback goes on -/

/-- The packet with the number, for an arrival at any time. -/
def arrivalOf (seq : UInt32) : Round where
  arrival := 0
  packet := { senderKey := [], sequence := seq, timestamp := 0, audioData := [] }
  playback := 0

theorem keepsPlaying_of_first_round
    (h : ∀ round : Round, jb.nextPlaybackSeq ≤ round.packet.sequence → (round.play jb).2 ≠ none) : jb.KeepsPlaying := by
  refine ⟨1, fun rounds hLength hArriving => ?_⟩
  cases rounds with
  | nil => exact absurd hLength (Nat.not_succ_le_zero 0)
  | cons round rest =>
    obtain ⟨packet, hPacket⟩ := Option.ne_none_iff_exists'.mp (h round hArriving.1)
    rw [playedIn_cons, hPacket]
    exact List.cons_ne_nil packet _

/-- A full buffer that holds the expected packet gives up just that one. -/
theorem trimOnce_of_expected (hAhead : ∀ seq ∈ jb.buffer, jb.nextPlaybackSeq ≤ seq)
    (hMem : jb.nextPlaybackSeq ∈ jb.buffer) : jb.trimOnce.buffer = jb.buffer.erase jb.nextPlaybackSeq := by
  obtain ⟨first, hFirst, hLeast, hErase⟩ := trimOnce_first (size_pos_of_mem hMem)
  rw [hErase, UInt32.le_antisymm (hLeast _ hMem) (hAhead first hFirst)]

theorem next_ne_self (seq : UInt32) : seq + 1 ≠ seq := by
  intro hEq
  have hNat := congrArg UInt32.toNat hEq
  rw [UInt32.toNat_add] at hNat
  simp only [UInt32.reduceToNat] at hNat
  have hBound := seq.toNat_lt
  omega

/-- The round plays what `pop` finds after the push: the expected packet, or its successor when the
expected one had to make room. -/
theorem plays_of_canPlayOn (hDone : jb.initialFillDone = true) (hOrdered : jb.Ordered) (hMax : 0 < jb.maxPackets)
    (h : jb.CanPlayOn) (hNext : jb.nextPlaybackSeq ≤ round.packet.sequence) : (round.play jb).2 ≠ none := by
  have hKept (hMem : jb.nextPlaybackSeq ∈ ((jb.noteFirstPacket round.arrival).keep round.packet).buffer)
      (hPush : jb.push round.arrival round.packet = (jb.noteFirstPacket round.arrival).keep round.packet) :
      (round.play jb).2 ≠ none := by
    rw [Round.play, hPush]
    exact pop_of_present hDone hMem
  rcases push_cases round.arrival round.packet hOrdered.fits with
    ⟨⟨-, hLt⟩, -⟩ | ⟨-, -, hPush⟩ | ⟨hLate, hNew, hFull, hPush⟩
  · exact absurd hNext (UInt32.not_le.mpr hLt)
  · refine hKept (mem_insert_iff.mpr ?_) hPush
    rcases h with hLast | ⟨hMem, -⟩
    · refine .inl (UInt32.toNat_inj.mp ?_)
      have hBound := round.packet.sequence.toNat_lt
      rw [UInt32.le_iff_toNat_le] at hNext
      omega
    · exact .inr hMem
  · have hAhead := ahead_keep (hOrdered.noteFirstPacket round.arrival).ahead hLate hDone
    rcases h with hLast | ⟨hMem, hStays⟩
    · obtain ⟨seq, hSeq⟩ := exists_mem_of_size_pos (hFull ▸ hMax)
      have hSame : round.packet.sequence = seq := by
        have hSeqNext := UInt32.le_iff_toNat_le.mp (hOrdered.ahead hDone seq hSeq)
        have hPacketNext := UInt32.le_iff_toNat_le.mp hNext
        have hSeqBound := seq.toNat_lt
        have hPacketBound := round.packet.sequence.toNat_lt
        exact UInt32.toNat_inj.mp (by omega)
      exact absurd (hSame ▸ hSeq) hNew
    · -- the buffer is full, and the expected packet makes room for the one that arrives
      have hSuccessor : jb.nextPlaybackSeq + 1 ∈ ((jb.noteFirstPacket round.arrival).keep round.packet).buffer := by
        refine mem_insert_iff.mpr ?_
        rcases hStays with hRoom | hNextMem | hNoOther
        · exact absurd hFull (Nat.ne_of_lt hRoom)
        · exact .inr hNextMem
        · exact .inl (hNoOther _ hNext hNew).symm
      have hDone' : ((jb.noteFirstPacket round.arrival).keep round.packet).initialFillDone = true := hDone
      rw [Round.play, hPush]
      refine pop_of_present hDone' ?_
      rw [next_trimOnce hDone', trimOnce_of_expected hAhead (mem_insert_iff.mpr (.inr hMem))]
      exact mem_erase_iff.mpr ⟨next_ne_self _, hSuccessor⟩

theorem lt_next_of_ne_last {seq : UInt32} (h : seq.toNat ≠ 2 ^ 32 - 1) : seq < seq + 1 :=
  lt_next (by have hBound := seq.toNat_lt; omega)

/-- A full buffer without the successor of the expected packet stalls with the next packet that is new. -/
theorem not_keepsPlaying_of_full (hDone : jb.initialFillDone = true) (hOrdered : jb.Ordered)
    (hMem : jb.nextPlaybackSeq ∈ jb.buffer) (hFull : jb.buffer.size = jb.maxPackets)
    (hSuccessor : jb.nextPlaybackSeq + 1 ∉ jb.buffer) {seq : UInt32} (hSeq : jb.nextPlaybackSeq ≤ seq)
    (hNew : seq ∉ jb.buffer) (hOther : seq ≠ jb.nextPlaybackSeq + 1) : ¬ jb.KeepsPlaying := by
  have hBeyond : jb.nextPlaybackSeq < seq := UInt32.lt_of_le_of_ne hSeq fun hEq => hNew (hEq ▸ hMem)
  have hSize : ¬ jb.buffer.size < jb.maxPackets := Nat.not_lt.mpr (Nat.le_of_eq hFull.symm)
  rcases push_cases 0 (arrivalOf seq).packet hOrdered.fits with
    ⟨⟨-, hLt⟩, -⟩ | ⟨-, hRoom, -⟩ | ⟨hLate, -, -, hPush⟩
  · exact absurd hLt (UInt32.lt_asymm hBeyond)
  · exact absurd hRoom (not_or.mpr ⟨hNew, hSize⟩)
  · have hAhead := ahead_keep (hOrdered.noteFirstPacket 0).ahead hLate hDone
    have hDone' : ((jb.noteFirstPacket 0).keep (arrivalOf seq).packet).initialFillDone = true := hDone
    have hNext : (jb.push 0 (arrivalOf seq).packet).nextPlaybackSeq = jb.nextPlaybackSeq + 1 := by
      rw [hPush]
      exact next_trimOnce hDone'
    have hLeft (other : UInt32) : other ∈ (jb.push 0 (arrivalOf seq).packet).buffer ↔
        other ≠ jb.nextPlaybackSeq ∧ (other = seq ∨ other ∈ jb.buffer) := by
      rw [hPush, trimOnce_of_expected hAhead (mem_insert_iff.mpr (.inr hMem)), mem_erase_iff]
      exact and_congr_right fun _ => mem_insert_iff
    have hStalled : (jb.push 0 (arrivalOf seq).packet).Stalled := by
      refine ⟨by rw [hPush]; exact hDone', fun hFound => ?_⟩
      rw [hNext, hLeft] at hFound
      rcases hFound.2 with hEq | hOld
      · exact hOther hEq.symm
      · exact hSuccessor hOld
    have hAfter : (arrivalOf seq).play jb = (jb.push 0 (arrivalOf seq).packet, none) :=
      pop_of_missing hStalled.done hStalled.missing
    have hFurther : (jb.push 0 (arrivalOf seq).packet).nextPlaybackSeq < (arrivalOf seq).packet.sequence := by
      rw [hNext]
      exact UInt32.lt_of_le_of_ne (next_le_of_lt hBeyond) (Ne.symm hOther)
    rintro ⟨bound, hPlays⟩
    obtain ⟨hArriving, hSilent⟩ := repeated_unheard (arrivalOf seq) bound hStalled (hOrdered.push 0 _) hFurther
      (.inl ((hLeft seq).mpr ⟨fun hEq => UInt32.lt_irrefl _ (hEq ▸ hBeyond), .inl rfl⟩))
    have hOnward : jb.afterRound (arrivalOf seq) = jb.push 0 (arrivalOf seq).packet := congrArg Prod.fst hAfter
    refine hPlays (arrivalOf seq :: List.replicate bound (arrivalOf seq)) ?_ ⟨hSeq, ?_⟩ ?_
    · rw [List.length_cons, List.length_replicate]
      exact Nat.le_succ bound
    · rw [hOnward]
      exact hArriving
    · rw [playedIn_cons, hAfter, hOnward, hSilent]
      rfl

theorem keepsPlaying_iff_of_ordered (hDone : jb.initialFillDone = true) (hOrdered : jb.Ordered)
    (hMax : 0 < jb.maxPackets) : jb.KeepsPlaying ↔ jb.CanPlayOn := by
  constructor
  · intro hKeeps
    by_cases hLast : jb.nextPlaybackSeq.toNat = 2 ^ 32 - 1
    · exact .inl hLast
    refine .inr ?_
    have hNext := lt_next_of_ne_last hLast
    by_cases hMem : jb.nextPlaybackSeq ∈ jb.buffer
    · refine ⟨hMem, ?_⟩
      by_contra hStays
      rw [not_or, not_or, not_forall] at hStays
      obtain ⟨hRoom, hSuccessor, seq, hSeq⟩ := hStays
      rw [Classical.not_imp, Classical.not_imp] at hSeq
      obtain ⟨hAhead, hNew, hOther⟩ := hSeq
      exact not_keepsPlaying_of_full hDone hOrdered hMem (Nat.le_antisymm hOrdered.fits (Nat.not_lt.mp hRoom))
        hSuccessor hAhead hNew hOther hKeeps
    · exfalso
      have hStalled : jb.Stalled := ⟨hDone, hMem⟩
      by_cases hEmpty : jb.buffer.size = 0
      · exact hStalled.not_keepsPlaying hOrdered (arrivalOf (jb.nextPlaybackSeq + 1)) hNext (.inr (hEmpty ▸ hMax)) hKeeps
      · obtain ⟨seq, hSeq⟩ := exists_mem_of_size_pos (Nat.pos_of_ne_zero hEmpty)
        have hBeyond : jb.nextPlaybackSeq < seq :=
          UInt32.lt_of_le_of_ne (hOrdered.ahead hDone seq hSeq) fun hEq => hMem (hEq ▸ hSeq)
        exact hStalled.not_keepsPlaying hOrdered (arrivalOf seq) hBeyond (.inl hSeq) hKeeps
  · intro hPlay
    exact keepsPlaying_of_first_round fun round => plays_of_canPlayOn hDone hOrdered hMax hPlay

theorem Ordered.new (targetDelayMs : UInt32) : (new targetDelayMs).Ordered := Ordered.empty rfl

/-- A started buffer goes on playing while packets arrive just when the expected one is not lost. -/
theorem keeps_playing_iff (targetDelayMs : UInt32) (calls : List Call)
    (hStarted : (final JitterBuffer.after (new targetDelayMs) calls).initialFillDone = true) :
    (final JitterBuffer.after (new targetDelayMs) calls).KeepsPlaying ↔
      (final JitterBuffer.after (new targetDelayMs) calls).CanPlayOn := by
  refine keepsPlaying_iff_of_ordered hStarted ((Ordered.new targetDelayMs).final calls) ?_
  rw [maxPackets_final (Ordered.new targetDelayMs)]
  exact Nat.zero_lt_succ 49

/-- Packet 0 is played; packet 1 is the next one expected. -/
def openingCalls : List Call := [.push 0 (samplePacket 0), .pop 0]

theorem keeps_playing_iff_unbroken :
    (final JitterBuffer.after (new 0) (openingCalls ++ [.push 0 (samplePacket 1)])).KeepsPlaying :=
  (keeps_playing_iff 0 (openingCalls ++ [.push 0 (samplePacket 1)]) (by decide +kernel)).mpr
    (.inr ⟨by decide +kernel, .inl (by decide +kernel)⟩)

/-- Packet 1 is lost: none of the packets 2, 3, .. is played, and there is no bound for the rounds. -/
theorem lost_packet_stalls :
    (final JitterBuffer.after (new 0) openingCalls).initialFillDone = true ∧
    (∀ count, 2 + count ≤ 2 ^ 32 →
      playedIn (final JitterBuffer.after (new 0) openingCalls) (inOrder samplePacket 2 count) = []) ∧
    ¬ (final JitterBuffer.after (new 0) openingCalls).KeepsPlaying := by
  have hStalled : (final JitterBuffer.after (new 0) openingCalls).Stalled := ⟨by decide +kernel, by decide +kernel⟩
  have hOrdered := (Ordered.new 0).final openingCalls
  have hNext : (final JitterBuffer.after (new 0) openingCalls).nextPlaybackSeq.toNat = 1 := by decide +kernel
  refine ⟨hStalled.done, fun count hCount => ?_, ?_⟩
  · exact lost_stream_unheard (fun _ => rfl) 2 count hStalled hOrdered (hNext ▸ by decide) hCount
  · exact hStalled.not_keepsPlaying hOrdered (arrivalOf 2) (by decide +kernel) (.inr (by decide +kernel))

end Rekindle.Voice.JitterBuffer
