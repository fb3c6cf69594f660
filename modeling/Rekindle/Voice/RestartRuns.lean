import Rekindle.Voice.Restarts

/-! # Runs of the receive loop around a restart -/
namespace Rekindle.Voice
set_option autoImplicit false
open Runs OrderedMap JitterBuffer

/-- What holds of the buffer of a sender, or `Absent` when the loop does not track it. -/
structure Heard (Absent : Prop) (Holds : JitterBuffer → Prop) (key : List UInt8) (loop : ReceiveLoop) : Prop where
  absent : loop.participants key = none → Absent
  present : ∀ participant, loop.participants key = some participant →
    participant.Tracked loop.now ∧ Holds participant.jitterBuffer

/-- An invariant that follows the new packets of a sender until one of them is played. -/
structure Follows (New : VoicePacket → Prop) (Absent : Nat → Prop) (Holds : Nat → JitterBuffer → Prop) : Prop where
  fresh : ∀ count, Absent count → Holds count (new jitterBufferMs)
  push : ∀ count jb now packet, jb.Ordered → jb.maxPackets = 50 → Holds count jb →
    packet.sequence = UInt32.ofNat count → New packet → Holds (count + 1) (jb.push now packet)
  pop : ∀ count jb now, jb.Ordered → (jb.initialFillDone = false → 0 < jb.buffer.size) → Holds count jb →
    (∃ packet, (jb.pop now).2 = some packet ∧ New packet) ∨
      Holds count (jb.pop now).1 ∧ (jb.Ready now → Absent count)

variable {loop : ReceiveLoop} {key : List UInt8} {wait : Nat} {packet : VoicePacket}
  {New : VoicePacket → Prop} {Absent : Nat → Prop} {Holds : Nat → JitterBuffer → Prop} {count : Nat}

/-! ### One event -/

theorem step_packet_of_ne (hOther : packet.senderKey ≠ key) :
    (loop.step (.packet wait packet)).participants key = loop.participants key := by
  change ((loop.passTime wait).receive packet).participants key = _
  rw [ReceiveLoop.receive]
  split
  · rfl
  · exact Function.update_of_ne (Ne.symm hOther) _ _

theorem step_packet_of_eq (hKey : packet.senderKey = key) (hOurs : key ≠ loop.ourKeyBytes) :
    (loop.step (.packet wait packet)).participants key =
      some (((loop.participants key).getD (ParticipantDecoder.new (loop.now + wait))).receive (loop.now + wait) packet) := by
  change ((loop.passTime wait).receive packet).participants key = _
  have hNotOurs : ¬ packet.senderKey = (loop.passTime wait).ourKeyBytes := fun hEq => hOurs (hKey.symm.trans hEq)
  rw [ReceiveLoop.receive, if_neg hNotOurs, hKey]
  exact Function.update_self ..

theorem now_step (event : LoopEvent) : (loop.step event).now = loop.now + event.wait := by
  cases event with
  | packet wait packet =>
    change ((loop.passTime wait).receive packet).now = _
    rw [ReceiveLoop.receive]
    split <;> rfl
  | tick wait => rfl

theorem ourKeyBytes_step (event : LoopEvent) : (loop.step event).ourKeyBytes = loop.ourKeyBytes := by
  cases event with
  | packet wait packet =>
    change ((loop.passTime wait).receive packet).ourKeyBytes = _
    rw [ReceiveLoop.receive]
    split <;> rfl
  | tick wait => rfl

theorem Heard.other (h : Heard (Absent count) (Holds count) key loop) (hOther : packet.senderKey ≠ key) :
    Heard (Absent count) (Holds count) key (loop.step (.packet wait packet)) := by
  refine ⟨fun hNone => h.absent (step_packet_of_ne hOther ▸ hNone), fun participant hSome => ?_⟩
  rw [step_packet_of_ne hOther] at hSome
  obtain ⟨hTracked, hHolds⟩ := h.present participant hSome
  rw [now_step]
  exact ⟨hTracked.mono (Nat.le_add_right _ _), hHolds⟩

/-- The participant that takes the packet: the one that is tracked, or a new one. -/
theorem Heard.usable (h : Heard (Absent count) (Holds count) key loop)
    (hFresh : Absent count → Holds count (new jitterBufferMs)) (wait : Nat) :
    Usable ((loop.participants key).getD (ParticipantDecoder.new (loop.now + wait))).jitterBuffer (loop.now + wait) ∧
    Holds count ((loop.participants key).getD (ParticipantDecoder.new (loop.now + wait))).jitterBuffer := by
  cases hParticipant : loop.participants key with
  | none => exact ⟨Usable.new _, hFresh (h.absent hParticipant)⟩
  | some participant =>
    obtain ⟨hTracked, hHolds⟩ := h.present participant hParticipant
    exact ⟨hTracked.usable.mono (Nat.le_trans hTracked.current (Nat.le_add_right _ _)), hHolds⟩

theorem Heard.arrival (h : Heard (Absent count) (Holds count) key loop) (hFollows : Follows New Absent Holds)
    (hOurs : key ≠ loop.ourKeyBytes) (hKey : packet.senderKey = key)
    (hSeq : packet.sequence = UInt32.ofNat count) (hNew : New packet) :
    Heard (Absent (count + 1)) (Holds (count + 1)) key (loop.step (.packet wait packet)) := by
  obtain ⟨hUsable, hHolds⟩ := h.usable (hFollows.fresh count) wait
  refine ⟨fun hNone => ?_, fun participant hSome => ?_⟩
  · rw [step_packet_of_eq hKey hOurs] at hNone
    cases hNone
  · rw [step_packet_of_eq hKey hOurs] at hSome
    cases hSome
    rw [now_step]
    exact ⟨hUsable.receive, hFollows.push count _ _ packet hUsable.ordered hUsable.capacity hHolds hSeq hNew⟩

theorem Heard.tick (h : Heard (Absent count) (Holds count) key loop) (hFollows : Follows New Absent Holds)
    (wait : Nat) :
    (∃ packet, loop.plays key (.tick wait) = some packet ∧ New packet) ∨
    Heard (Absent count) (Holds count) key (loop.step (.tick wait)) := by
  have hStep : (loop.step (.tick wait)).participants key =
      (loop.participants key).bind fun participant => (participant.tick (loop.now + wait)).1 := rfl
  cases hParticipant : loop.participants key with
  | none =>
    rw [hParticipant] at hStep
    refine .inr ⟨fun _ => h.absent hParticipant, fun participant hSome => ?_⟩
    rw [hStep] at hSome
    cases hSome
  | some participant =>
    rw [hParticipant] at hStep
    obtain ⟨hBefore, hHolds⟩ := h.present participant hParticipant
    have hTracked := hBefore.mono (Nat.le_add_right loop.now wait)
    rcases hFollows.pop count _ (loop.now + wait) hTracked.usable.ordered hTracked.held hHolds with
      ⟨packet, hPacket, hNew⟩ | ⟨hLater, hAbsent⟩
    · refine .inl ⟨packet, ?_, hNew⟩
      rw [ReceiveLoop.plays, hParticipant]
      exact hPacket
    · refine .inr ?_
      rcases tick_cases participant (loop.now + wait) with ⟨hTimeout, hGone⟩ | ⟨left, hLeft, hBuffer, hTime⟩
      · refine ⟨fun _ => hAbsent (hTracked.ready_of_timeout hTimeout), fun other hSome => ?_⟩
        rw [hStep, Option.bind_some, hGone] at hSome
        cases hSome
      · refine ⟨fun hNone => ?_, fun other hSome => ?_⟩
        · rw [hStep, Option.bind_some, hLeft] at hNone
          cases hNone
        · rw [hStep, Option.bind_some, hLeft] at hSome
          cases hSome
          exact ⟨hTracked.tick hBuffer hTime, hBuffer ▸ hLater⟩

/-! ### Runs -/

theorem arrivals_packet_of_eq (hKey : packet.senderKey = key) (events : List LoopEvent) :
    arrivals key (.packet wait packet :: events) = packet :: arrivals key events := by
  simp [arrivals, hKey]

theorem arrivals_packet_of_ne (hOther : packet.senderKey ≠ key) (events : List LoopEvent) :
    arrivals key (.packet wait packet :: events) = arrivals key events := by
  simp [arrivals, hOther]

theorem arrivals_tick (events : List LoopEvent) : arrivals key (.tick wait :: events) = arrivals key events := by
  simp [arrivals]

theorem mem_played_cons {event : LoopEvent} {events : List LoopEvent} {found : VoicePacket} :
    found ∈ loop.played key (event :: events) ↔
      loop.plays key event = some found ∨ found ∈ (loop.step event).played key events := by
  rw [ReceiveLoop.played, List.mem_append, Option.mem_toList]

theorem mem_played_append {before after : List LoopEvent} {found : VoicePacket} :
    found ∈ loop.played key (before ++ after) ↔
      found ∈ loop.played key before ∨ found ∈ (final ReceiveLoop.step loop before).played key after := by
  induction before generalizing loop with
  | nil => simp [ReceiveLoop.played]
  | cons event rest ih => rw [List.cons_append, mem_played_cons, mem_played_cons, ih, or_assoc]; rfl

/-- By induction over the events: as long as no new packet is played, the invariant goes along with the
packets that arrive. -/
theorem Heard.run (hFollows : Follows New Absent Holds) (events : List LoopEvent) (frames : List EncodedFrame)
    (h : Heard (Absent count) (Holds count) key loop) (hOurs : key ≠ loop.ourKeyBytes)
    (hSent : arrivals key events = voiceSendLoop key (UInt32.ofNat count) frames)
    (hNew : ∀ packet ∈ voiceSendLoop key (UInt32.ofNat count) frames, New packet) :
    (∃ packet ∈ loop.played key events, New packet) ∨
    Heard (Absent (count + frames.length)) (Holds (count + frames.length)) key (final ReceiveLoop.step loop events) := by
  induction events generalizing loop count frames with
  | nil =>
    cases frames with
    | nil => exact .inr h
    | cons frame rest => cases hSent
  | cons event rest ih =>
    have hOursNext : key ≠ (loop.step event).ourKeyBytes := by
      rw [ourKeyBytes_step]
      exact hOurs
    have hLater : (∃ packet ∈ (loop.step event).played key rest, New packet) →
        ∃ packet ∈ loop.played key (event :: rest), New packet := by
      rintro ⟨packet, hPacket, hPacketNew⟩
      exact ⟨packet, mem_played_cons.mpr (.inr hPacket), hPacketNew⟩
    cases event with
    | packet wait packet =>
      by_cases hKey : packet.senderKey = key
      · rw [arrivals_packet_of_eq hKey] at hSent
        cases frames with
        | nil => cases hSent
        | cons frame later =>
          obtain ⟨hPacket, hRest⟩ := List.cons_eq_cons.mp hSent
          have hSeq : packet.sequence = UInt32.ofNat count := by rw [hPacket]; rfl
          have hNext : UInt32.ofNat count + 1 = UInt32.ofNat (count + 1) := (UInt32.ofNat_add count 1).symm
          have hPacketNew : New packet := by
            rw [hPacket]
            exact hNew _ List.mem_cons_self
          rw [voiceSendLoop, hNext] at hNew
          rw [hNext] at hRest
          have hArrival : Heard (Absent (count + 1)) (Holds (count + 1)) key (loop.step (.packet wait packet)) :=
            h.arrival hFollows hOurs hKey hSeq hPacketNew
          rcases ih later hArrival hOursNext hRest (fun other hOther => hNew other (List.mem_cons_of_mem _ hOther)) with
            hPlayed | hHeard
          · exact .inl (hLater hPlayed)
          · rw [List.length_cons, Nat.add_comm later.length, ← Nat.add_assoc]
            exact .inr hHeard
      · rw [arrivals_packet_of_ne hKey] at hSent
        exact (ih frames (h.other hKey) hOursNext hSent hNew).imp hLater id
    | tick wait =>
      rw [arrivals_tick] at hSent
      rcases h.tick hFollows wait with ⟨packet, hPacket, hPacketNew⟩ | hHeard
      · exact .inl ⟨packet, mem_played_cons.mpr (.inl hPacket), hPacketNew⟩
      · exact (ih frames hHeard hOursNext hSent hNew).imp hLater id

/-! ### The two invariants -/

theorem follows_renewed (New : VoicePacket → Prop) (limit : Nat) :
    Follows New (fun _ => True) (JitterBuffer.Renewed New limit) where
  fresh count _ seq found hFound := by
    rw [JitterBuffer.new, Std.TreeMap.getElem?_emptyc] at hFound
    cases hFound
  push count jb now packet hOrdered _ h hSeq hNew := h.push hOrdered hSeq hNew
  pop count jb now _ _ h := .inr ⟨h.pop, fun _ => trivial⟩

theorem follows_catchingUp (New : VoicePacket → Prop) (reach : Nat) :
    Follows New (· ≤ reach) (JitterBuffer.CatchingUp New reach) where
  fresh count hCount := CatchingUp.fresh hCount 0
  push count jb now packet hOrdered hMax h hSeq hNew := h.push hOrdered (hMax ▸ by decide) hSeq hNew
  pop count jb now _ hHeld h := h.pop hHeld

/-! ### How long it takes -/

/-- A number above those of the packets in the buffer, and at least the expected one. -/
def JitterBuffer.reach (jb : JitterBuffer) : Nat :=
  jb.buffer.keys.foldr (fun seq bound => max (seq.toNat + 1) bound) jb.nextPlaybackSeq.toNat

/-- How many packets that arrive in order, from `sequence` on, are enough. A sender that starts with 0 is
heard when it has passed the old numbers. A buffer that holds the very last number goes on with 0 after
it, and the numbers have to go around. -/
def JitterBuffer.patience (jb : JitterBuffer) (sequence : UInt32) : Nat :=
  if sequence = 0 ∧ UInt32.ofNat (2 ^ 32 - 1) ∉ jb.buffer then jb.reach + 10
  else 2 ^ 32 - sequence.toNat + (2 ^ 32 + (2 ^ 32 + 10))

theorem lt_foldr_of_mem {seqs : List UInt32} {bound : Nat} {seq : UInt32} (h : seq ∈ seqs) :
    seq.toNat < seqs.foldr (fun seq bound => max (seq.toNat + 1) bound) bound := by
  induction seqs with
  | nil => cases h
  | cons first rest ih =>
    rw [List.foldr_cons]
    rcases List.mem_cons.mp h with rfl | hRest
    · exact Nat.lt_of_lt_of_le (Nat.lt_succ_self _) (Nat.le_max_left _ _)
    · exact Nat.lt_of_lt_of_le (ih hRest) (Nat.le_max_right _ _)

theorem le_foldr (seqs : List UInt32) (bound : Nat) :
    bound ≤ seqs.foldr (fun seq bound => max (seq.toNat + 1) bound) bound := by
  induction seqs with
  | nil => exact Nat.le_refl _
  | cons first rest ih => exact Nat.le_trans ih (Nat.le_max_right _ _)

theorem catchingUp_of_restart {jb : JitterBuffer} (hLast : UInt32.ofNat (2 ^ 32 - 1) ∉ jb.buffer) :
    jb.CatchingUp New jb.reach 0 where
  renewed seq found hFound := by
    refine .inr ⟨Nat.zero_le _, ?_⟩
    have hBound := seq.toNat_lt
    have hOther : seq.toNat ≠ 2 ^ 32 - 1 := fun hEq =>
      hLast (eq_ofNat_of_toNat hEq ▸ mem_iff_getElem?.mpr ⟨found, hFound⟩)
    omega
  within seq hSeq := .inl (lt_foldr_of_mem (Std.TreeMap.mem_keys.mpr hSeq))
  next _ := .inl (le_foldr _ _)
  arrived _ seq _ hBelow := absurd hBelow (Nat.not_lt_zero _)
  recent _ := .inr fun number _ hNumber => absurd hNumber (Nat.not_lt_zero _)

/-- Once every number has arrived anew, no old packet is left. -/
theorem catchingUp_of_renewed {jb : JitterBuffer} (h : jb.Renewed New (2 ^ 32) (2 ^ 32)) :
    jb.CatchingUp New (2 ^ 32) 0 where
  renewed seq found hFound := by
    rcases h seq found hFound with hNew | ⟨hOld, hLimit⟩
    · exact .inl hNew
    · exact absurd hLimit (Nat.not_lt.mpr hOld)
  within seq _ := .inl seq.toNat_lt
  next _ := .inl (Nat.le_of_lt (UInt32.toNat_lt _))
  arrived _ seq _ hBelow := absurd hBelow (Nat.not_lt_zero _)
  recent _ := .inr fun number _ hNumber => absurd hNumber (Nat.not_lt_zero _)

theorem voiceSendLoop_append (sequence : UInt32) (first second : List EncodedFrame) :
    voiceSendLoop key sequence (first ++ second) =
      voiceSendLoop key sequence first ++ voiceSendLoop key (sequence + UInt32.ofNat first.length) second := by
  induction first generalizing sequence with
  | nil => simp [voiceSendLoop]
  | cons frame rest ih =>
    have hNext : sequence + 1 + UInt32.ofNat rest.length = sequence + UInt32.ofNat (rest.length + 1) := by
      rw [UInt32.ofNat_add, UInt32.add_assoc, UInt32.add_comm 1]
      rfl
    rw [List.cons_append, voiceSendLoop, ih, hNext]
    rfl

/-- The events up to the first `count` packets of the sender, and the other events. -/
theorem split_arrivals {events : List LoopEvent} {sequence : UInt32} {frames : List EncodedFrame}
    (hSent : arrivals key events = voiceSendLoop key sequence frames) (hCount : count ≤ frames.length) :
    ∃ before after, events = before ++ after ∧ arrivals key before = voiceSendLoop key sequence (frames.take count) ∧
      arrivals key after = voiceSendLoop key (sequence + UInt32.ofNat count) (frames.drop count) := by
  have hFrames := @voiceSendLoop_append key sequence (frames.take count) (frames.drop count)
  rw [List.take_append_drop, List.length_take_of_le hCount] at hFrames
  obtain ⟨before, after, hEvents, hBefore, hAfter⟩ := List.filterMap_eq_append_iff.mp (hSent.trans hFrames)
  exact ⟨before, after, hEvents, hBefore, hAfter⟩

theorem ourKeyBytes_final (events : List LoopEvent) :
    (final ReceiveLoop.step loop events).ourKeyBytes = loop.ourKeyBytes := by
  induction events generalizing loop with
  | nil => rfl
  | cons event rest ih => exact ih.trans (ourKeyBytes_step event)

theorem exists_played_append {before after : List LoopEvent}
    (h : ∃ packet ∈ (final ReceiveLoop.step loop before).played key after, New packet) :
    ∃ packet ∈ loop.played key (before ++ after), New packet := by
  obtain ⟨packet, hPacket, hNew⟩ := h
  exact ⟨packet, mem_played_append.mpr (.inr hPacket), hNew⟩

/-- Past `reach` and ten packets further, the next tick plays a new packet. -/
theorem played_of_catchingUp {reach : Nat} (h : Heard (0 ≤ reach) (JitterBuffer.CatchingUp New reach 0) key loop)
    (hOurs : key ≠ loop.ourKeyBytes) {events : List LoopEvent} {frames : List EncodedFrame}
    (hSent : arrivals key events = voiceSendLoop key 0 frames)
    (hNew : ∀ packet ∈ voiceSendLoop key 0 frames, New packet) (hEnough : reach + 10 ≤ frames.length) (wait : Nat) :
    ∃ packet ∈ loop.played key (events ++ [.tick wait]), New packet := by
  rcases h.run (follows_catchingUp New reach) events frames hOurs hSent hNew with ⟨packet, hPacket, hPacketNew⟩ | hHeard
  · exact ⟨packet, mem_played_append.mpr (.inl hPacket), hPacketNew⟩
  · refine exists_played_append ?_
    rw [Nat.zero_add] at hHeard
    cases hParticipant : (final ReceiveLoop.step loop events).participants key with
    | none =>
      have hFew : frames.length ≤ reach := hHeard.absent hParticipant
      omega
    | some participant =>
      obtain ⟨hTracked, hCatching⟩ := hHeard.present participant hParticipant
      have hReady : participant.jitterBuffer.Ready ((final ReceiveLoop.step loop events).now + wait) :=
        hCatching.ready hTracked.usable.target hEnough
      rcases (follows_catchingUp New reach).pop frames.length _ ((final ReceiveLoop.step loop events).now + wait)
        hTracked.usable.ordered hTracked.held hCatching with
        ⟨packet, hPacket, hPacketNew⟩ | ⟨-, hFew⟩
      · refine ⟨packet, mem_played_cons.mpr (.inl ?_), hPacketNew⟩
        rw [ReceiveLoop.plays, hParticipant]
        exact hPacket
      · have hContra := hFew hReady
        omega

/-- After a whole cycle of numbers the buffer holds new packets only, and the next cycle is heard. -/
theorem played_of_cycle (h : Heard True (fun _ => True) key loop) (hOurs : key ≠ loop.ourKeyBytes)
    {events : List LoopEvent} {frames : List EncodedFrame} (hSent : arrivals key events = voiceSendLoop key 0 frames)
    (hNew : ∀ packet ∈ voiceSendLoop key 0 frames, New packet)
    (hEnough : 2 ^ 32 + (2 ^ 32 + 10) ≤ frames.length) (wait : Nat) :
    ∃ packet ∈ loop.played key (events ++ [.tick wait]), New packet := by
  obtain ⟨before, after, rfl, hBefore, hAfter⟩ := split_arrivals hSent (Nat.le_trans (Nat.le_add_right _ _) hEnough)
  have hSplit := @voiceSendLoop_append key 0 (frames.take (2 ^ 32)) (frames.drop (2 ^ 32))
  rw [List.take_append_drop, List.length_take_of_le (Nat.le_trans (Nat.le_add_right _ _) hEnough)] at hSplit
  rw [hSplit] at hNew
  have hStart : Heard True (JitterBuffer.Renewed New (2 ^ 32) 0) key loop :=
    ⟨fun _ => trivial, fun participant hSome => ⟨(h.present participant hSome).1, fun seq found _ =>
      .inr ⟨Nat.zero_le _, seq.toNat_lt⟩⟩⟩
  rw [List.append_assoc]
  rcases hStart.run (follows_renewed New (2 ^ 32)) before (frames.take (2 ^ 32)) hOurs hBefore
    (fun packet hPacket => hNew packet (List.mem_append_left _ hPacket)) with ⟨packet, hPacket, hPacketNew⟩ | hHeard
  · exact ⟨packet, mem_played_append.mpr (.inl hPacket), hPacketNew⟩
  · refine exists_played_append ?_
    rw [List.length_take_of_le (Nat.le_trans (Nat.le_add_right _ _) hEnough), Nat.zero_add] at hHeard
    have hCaught : Heard (0 ≤ 2 ^ 32) (JitterBuffer.CatchingUp New (2 ^ 32) 0) key
        (final ReceiveLoop.step loop before) :=
      ⟨fun _ => Nat.zero_le _, fun participant hSome =>
        ⟨(hHeard.present participant hSome).1, catchingUp_of_renewed (hHeard.present participant hSome).2⟩⟩
    refine played_of_catchingUp hCaught ((ourKeyBytes_final before).symm ▸ hOurs) hAfter
      (fun packet hPacket => hNew packet (List.mem_append_right _ hPacket)) ?_ wait
    rw [List.length_drop]
    omega

theorem follows_tracked (New : VoicePacket → Prop) : Follows New (fun _ => True) (fun _ _ => True) where
  fresh _ _ := trivial
  push _ _ _ _ _ _ _ _ _ := trivial
  pop _ _ _ _ _ _ := .inr ⟨trivial, fun _ => trivial⟩

theorem heard_step (event : LoopEvent) (h : Heard True (fun _ => True) key loop) (hOurs : key ≠ loop.ourKeyBytes) :
    Heard True (fun _ => True) key (loop.step event) := by
  cases event with
  | packet wait packet =>
    by_cases hKey : packet.senderKey = key
    · have hSeq : packet.sequence = UInt32.ofNat packet.sequence.toNat := (UInt32.ofNat_toNat).symm
      exact h.arrival (follows_tracked fun _ => True) hOurs hKey hSeq trivial
    · refine ⟨fun _ => trivial, fun participant hSome => ?_⟩
      rw [step_packet_of_ne hKey] at hSome
      rw [now_step]
      exact ⟨(h.present participant hSome).1.mono (Nat.le_add_right _ _), trivial⟩
  | tick wait =>
    have hTick := @Heard.tick loop key (fun _ => False) (fun _ => True) (fun _ _ => True) 0 h (follows_tracked _) wait
    rcases hTick with ⟨packet, -, hFalse⟩ | hLater
    · exact hFalse.elim
    · exact hLater

/-- The loop never tracks its own user. -/
theorem ours_step (event : LoopEvent) (h : loop.participants loop.ourKeyBytes = none) :
    (loop.step event).participants (loop.step event).ourKeyBytes = none := by
  rw [ourKeyBytes_step]
  cases event with
  | packet wait packet =>
    by_cases hOurs : packet.senderKey = loop.ourKeyBytes
    · have hSkip : (loop.step (.packet wait packet)).participants = loop.participants := by
        have hOursNow : packet.senderKey = (loop.passTime wait).ourKeyBytes := hOurs
        change ((loop.passTime wait).receive packet).participants = _
        rw [ReceiveLoop.receive, if_pos hOursNow]
        rfl
      rw [hSkip, h]
    · rw [step_packet_of_ne hOurs, h]
  | tick wait =>
    change (loop.participants loop.ourKeyBytes).bind _ = none
    rw [h]
    rfl

theorem heard_final (events : List LoopEvent) (h : Heard True (fun _ => True) key loop)
    (hOurs : key ≠ loop.ourKeyBytes) : Heard True (fun _ => True) key (final ReceiveLoop.step loop events) := by
  induction events generalizing loop with
  | nil => exact h
  | cons event rest ih => exact ih (heard_step event h hOurs) ((ourKeyBytes_step event).symm ▸ hOurs)

theorem ours_final (events : List LoopEvent) (h : loop.participants loop.ourKeyBytes = none) :
    (final ReceiveLoop.step loop events).participants loop.ourKeyBytes = none := by
  induction events generalizing loop with
  | nil => exact h
  | cons event rest ih =>
    have hRest := ih (ours_step event h)
    rw [ourKeyBytes_step] at hRest
    exact hRest

/-- What every run of the loop keeps: it tracks other senders only, in buffers it made itself. -/
theorem heard_of_run (ourKeyBytes : List UInt8) (now : Nat) (events : List LoopEvent)
    {participant : ParticipantDecoder}
    (h : (ReceiveLoop.run ourKeyBytes now events).participants key = some participant) :
    key ≠ (ReceiveLoop.run ourKeyBytes now events).ourKeyBytes ∧
      Heard True (fun _ => True) key (ReceiveLoop.run ourKeyBytes now events) := by
  have hNone : (ReceiveLoop.run ourKeyBytes now events).participants ourKeyBytes = none := ours_final events rfl
  have hOurs : key ≠ (ReceiveLoop.start ourKeyBytes now).ourKeyBytes := fun hEq => by
    have hKey : key = ourKeyBytes := hEq
    rw [hKey, hNone] at h
    cases h
  exact ⟨(ourKeyBytes_final events).symm ▸ hOurs,
    heard_final events ⟨fun _ => trivial, fun _ hSome => nomatch hSome⟩ hOurs⟩

/-- After any run, packets of a tracked sender that arrive in order from some number on, from 0 after a
restart, are played in the end. -/
theorem restarted_sender_heard (ourKeyBytes : List UInt8) (now : Nat) (before : List LoopEvent) (key : List UInt8)
    (participant : ParticipantDecoder)
    (hTracked : (ReceiveLoop.run ourKeyBytes now before).participants key = some participant)
    (sequence : UInt32) (frames : List EncodedFrame) (events : List LoopEvent)
    (hSent : arrivals key events = voiceSendLoop key sequence frames)
    (hEnough : participant.jitterBuffer.patience sequence ≤ frames.length) (wait : Nat) :
    ∃ packet ∈ (ReceiveLoop.run ourKeyBytes now before).played key (events ++ [.tick wait]),
      packet ∈ voiceSendLoop key sequence frames := by
  obtain ⟨hOurs, hHeard⟩ := heard_of_run ourKeyBytes now before hTracked
  by_cases hDirect : sequence = 0 ∧ UInt32.ofNat (2 ^ 32 - 1) ∉ participant.jitterBuffer.buffer
  · obtain ⟨rfl, hLast⟩ := hDirect
    rw [JitterBuffer.patience, if_pos ⟨rfl, hLast⟩] at hEnough
    have hCaught : Heard (0 ≤ participant.jitterBuffer.reach)
        (JitterBuffer.CatchingUp (· ∈ voiceSendLoop key 0 frames) participant.jitterBuffer.reach 0) key
        (ReceiveLoop.run ourKeyBytes now before) := by
      refine ⟨fun _ => Nat.zero_le _, fun other hSome => ?_⟩
      rw [hTracked] at hSome
      cases hSome
      exact ⟨(hHeard.present participant hTracked).1, catchingUp_of_restart hLast⟩
    exact played_of_catchingUp hCaught hOurs hSent (fun packet hPacket => hPacket) hEnough wait
  · -- the rest of the cycle of numbers passes first
    rw [JitterBuffer.patience, if_neg hDirect] at hEnough
    have hRest : 2 ^ 32 - sequence.toNat ≤ frames.length := Nat.le_trans (Nat.le_add_right _ _) hEnough
    obtain ⟨first, second, rfl, hFirst, hSecond⟩ := split_arrivals hSent hRest
    have hSplit := @voiceSendLoop_append key sequence (frames.take (2 ^ 32 - sequence.toNat))
      (frames.drop (2 ^ 32 - sequence.toNat))
    rw [List.take_append_drop, List.length_take_of_le hRest] at hSplit
    have hZero : sequence + UInt32.ofNat (2 ^ 32 - sequence.toNat) = 0 := by
      have hBound := sequence.toNat_lt
      refine UInt32.toNat_inj.mp ?_
      rw [UInt32.toNat_add, UInt32.toNat_ofNat']
      change _ = 0
      omega
    rw [hZero] at hSecond hSplit
    rw [List.append_assoc, hSplit]
    refine exists_played_append ?_
    refine played_of_cycle (heard_final first hHeard hOurs) ((ourKeyBytes_final first).symm ▸ hOurs) hSecond
      (fun packet hPacket => List.mem_append_right _ hPacket) ?_ wait
    rw [List.length_drop]
    omega

def sampleFrames (count : Nat) (timestamp : UInt64) : List EncodedFrame :=
  List.replicate count { data := [0], timestamp := timestamp, sequence := 0 }

/-- Three packets of sender `[1]`, of which the first is played after the initial fill. -/
def firstCall : List LoopEvent :=
  (voiceSendLoop [1] 0 (sampleFrames 3 0)).map (LoopEvent.packet 20000000) ++ [.tick 200000000]

def firstCallSender : ParticipantDecoder :=
  ((ReceiveLoop.run [0] 0 firstCall).participants [1]).getD (ParticipantDecoder.new 0)

/-- The sender starts again from 0 while packets 1 and 2 of its first stream still wait. -/
theorem restarted_sender_heard_hot_swap :
    ∃ packet ∈ (ReceiveLoop.run [0] 0 firstCall).played [1]
      ((voiceSendLoop [1] 0 (sampleFrames 13 1)).map (LoopEvent.packet 20000000) ++ [.tick 20000000]),
      packet ∈ voiceSendLoop [1] 0 (sampleFrames 13 1) := by
  have hTracked : (ReceiveLoop.run [0] 0 firstCall).participants [1] = some firstCallSender := by
    have hSome : ((ReceiveLoop.run [0] 0 firstCall).participants [1]).isSome = true := by decide +kernel
    obtain ⟨participant, hParticipant⟩ := Option.isSome_iff_exists.mp hSome
    rw [firstCallSender, hParticipant]
    rfl
  exact restarted_sender_heard [0] 0 firstCall [1] firstCallSender hTracked 0 (sampleFrames 13 1)
    ((voiceSendLoop [1] 0 (sampleFrames 13 1)).map (LoopEvent.packet 20000000)) (by decide +kernel)
    (by decide +kernel) 20000000

end Rekindle.Voice
