import Rekindle.Signal.RatchetState

/-! # What the stored bytes decode to

The decoder checks the length once, against less than the shortest state takes, and then trusts the
two length prefixes.
-/
namespace Rekindle.Signal
set_option autoImplicit false

open ByteWords Fallible

/-- The little-endian word at a position. -/
def wordAt (data : Bytes) (pos width : Nat) : Nat := ofLeBytes ((data.drop pos).take width)

/-- The two length prefixes leave room for everything that follows them. -/
def FieldsFit (data : Bytes) : Prop :=
  104 + wordAt data 96 4 ≤ data.length ∧
    120 + wordAt data 96 4 + wordAt data (100 + wordAt data 96 4) 4 ≤ data.length

instance (data : Bytes) : Decidable (FieldsFit data) := inferInstanceAs (Decidable (_ ∧ _))

section
variable {data : Bytes} {pos width : Nat}

theorem readAt_fits (h : pos + width ≤ data.length) :
    ∃ window : Window UInt8 width, readAt data pos width = .ok window ∧ window.val = (data.drop pos).take width := by
  have hLength : ((data.drop pos).take width).length = width := by
    rw [List.length_take, List.length_drop]
    omega
  refine ⟨⟨(data.drop pos).take width, hLength⟩, ?_, rfl⟩
  have hSlice : slice? data pos width = some ⟨(data.drop pos).take width, hLength⟩ := dif_pos h
  rw [readAt, hSlice]

theorem readAt_outside (h : data.length < pos + width) : readAt data pos width = .error .panic := by
  have hSlice : slice? data pos width = none := by
    rw [Option.eq_none_iff_forall_ne_some]
    intro window hWindow
    have hSome := slice?_isSome.mp (Option.isSome_of_eq_some hWindow)
    omega
  rw [readAt, hSlice]

variable {β : Type}

/-- Reading goes on past a window that is there. -/
theorem readAt_bind_fits (h : pos + width ≤ data.length) (f : Window UInt8 width → Except Abort β) :
    ∃ window : Window UInt8 width, (readAt data pos width >>= f) = f window ∧
      window.val = (data.drop pos).take width := by
  obtain ⟨window, hRead, hVal⟩ := readAt_fits h
  refine ⟨window, ?_, hVal⟩
  rw [hRead]
  rfl

theorem readAt_bind_outside (h : data.length < pos + width) (f : Window UInt8 width → Except Abort β) :
    (readAt data pos width >>= f) = .error .panic := by
  rw [readAt_outside h]
  rfl

/-- Past the length check, the keys and the first prefix are there; what follows may not be. -/
theorem deserializeRatchet_panics_iff (hLong : 112 ≤ data.length) :
    deserializeRatchet data = .error .panic ↔ ¬FieldsFit data := by
  unfold deserializeRatchet FieldsFit
  rw [if_neg (by omega)]
  obtain ⟨root, hRoot, -⟩ := @readAt_bind_fits data 0 32 RatchetState (by omega) _
  rw [hRoot]
  obtain ⟨sending, hSending, -⟩ := @readAt_bind_fits data 32 32 RatchetState (by omega) _
  rw [hSending]
  obtain ⟨receiving, hReceiving, -⟩ := @readAt_bind_fits data 64 32 RatchetState (by omega) _
  rw [hReceiving]
  obtain ⟨ourPrefix, hOurPrefix, hOurVal⟩ := @readAt_bind_fits data 96 4 RatchetState (by omega) _
  rw [hOurPrefix]
  dsimp only
  rw [wordAt, ← hOurVal]
  generalize ofLeBytes ourPrefix.val = ourLen
  by_cases hOur : 104 + ourLen ≤ data.length
  · obtain ⟨our, hOurRead, -⟩ := @readAt_bind_fits data 100 ourLen RatchetState (by omega) _
    rw [hOurRead]
    obtain ⟨theirPrefix, hTheirPrefix, hTheirVal⟩ :=
      @readAt_bind_fits data (100 + ourLen) 4 RatchetState (by omega) _
    rw [hTheirPrefix, wordAt, ← hTheirVal]
    generalize ofLeBytes theirPrefix.val = theirLen
    by_cases hTheir : 104 + ourLen + theirLen ≤ data.length
    · obtain ⟨their, hTheirRead, -⟩ := @readAt_bind_fits data (104 + ourLen) theirLen RatchetState hTheir _
      rw [hTheirRead]
      by_cases hSend : 112 + ourLen + theirLen ≤ data.length
      · obtain ⟨send, hSendRead, -⟩ :=
          @readAt_bind_fits data (104 + ourLen + theirLen) 8 RatchetState (by omega) _
        rw [hSendRead]
        by_cases hRecv : 120 + ourLen + theirLen ≤ data.length
        · obtain ⟨recv, hRecvRead, -⟩ :=
            @readAt_bind_fits data (112 + ourLen + theirLen) 8 RatchetState (by omega) _
          rw [hRecvRead]
          exact iff_of_false (fun h => nomatch h) (not_not.mpr ⟨hOur, hRecv⟩)
        · rw [readAt_bind_outside (by omega)]
          exact iff_of_true rfl fun h => hRecv h.2
      · rw [readAt_bind_outside (by omega)]
        exact iff_of_true rfl fun h => by omega
    · rw [readAt_bind_outside (by omega)]
      exact iff_of_true rfl fun h => by omega
  · have hOutside : ¬(104 + ourLen ≤ data.length ∧
        120 + ourLen + wordAt data (100 + ourLen) 4 ≤ data.length) := fun h => hOur h.1
    by_cases hSecret : 100 + ourLen ≤ data.length
    · obtain ⟨our, hOurRead, -⟩ := @readAt_bind_fits data 100 ourLen RatchetState hSecret _
      rw [hOurRead, readAt_bind_outside (by omega)]
      exact iff_of_true rfl hOutside
    · rw [readAt_bind_outside (by omega)]
      exact iff_of_true rfl hOutside

/-- States that fit their prefixes come back, and the decoder returns on exactly the bytes that are too
short for its check or have room for their fields. -/
theorem decoding_safe_iff (data : Bytes) :
    (∀ state : RatchetState, state.Storable →
      serializeRatchet state >>= deserializeRatchet = .ok state) ∧
    (deserializeRatchet data ≠ .error .panic ↔ data.length < 112 ∨ FieldsFit data) := by
  refine ⟨fun state hStorable => ?_, ?_⟩
  · rw [serializeRatchet_eq_ok hStorable]
    exact deserializeRatchet_parts hStorable
  · by_cases hLong : 112 ≤ data.length
    · rw [Ne, deserializeRatchet_panics_iff hLong, not_not, or_iff_right (by omega)]
    · have hShort : deserializeRatchet data = .error (.error (.sessionError "invalid session data")) := by
        unfold deserializeRatchet
        rw [if_pos (by omega)]
        rfl
      rw [hShort]
      exact iff_of_true nofun (.inl (by omega))

/-- The shortest state takes 120 bytes, and the check asks for 112. -/
theorem decoding_panics :
    deserializeRatchet (List.replicate 112 0) = .error .panic ∧
    ¬∀ data : Bytes, deserializeRatchet data ≠ .error .panic := by
  have hPanics : deserializeRatchet (List.replicate 112 0) = .error .panic := by decide +kernel
  exact ⟨hPanics, fun hClaim => hClaim _ hPanics⟩

end

end Rekindle.Signal
