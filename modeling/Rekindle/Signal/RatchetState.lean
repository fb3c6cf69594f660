import Rekindle.Signal.Stores

/-! # Ratchet state and its stored form

Sessions live in the store as bytes: three chain keys, two length-prefixed ratchet keys, two
counters. Every operation on a session goes through this encoding.
-/
namespace Rekindle.Signal
set_option autoImplicit false

open ByteWords Fallible

structure RatchetState where
  rootKey : Key
  sendingChainKey : Key
  receivingChainKey : Key
  ourRatchetSecret : Bytes
  theirRatchetPublic : Bytes
  sendCounter : UInt64
  recvCounter : UInt64
  deriving DecidableEq

/-- `u32::try_from(len).expect(..)`, then the little-endian bytes. -/
def lengthPrefix (field : Bytes) : Except Abort Bytes :=
  if field.length < 2 ^ 32 then .ok (toLeBytes 4 field.length) else .error .panic

def serializeRatchet (state : RatchetState) : Except Abort Bytes := do
  let ourLen ← lengthPrefix state.ourRatchetSecret
  let theirLen ← lengthPrefix state.theirRatchetPublic
  pure (List.flatten [state.rootKey.val, state.sendingChainKey.val, state.receivingChainKey.val,
    ourLen, state.ourRatchetSecret, theirLen, state.theirRatchetPublic,
    toLeBytes 8 state.sendCounter.toNat, toLeBytes 8 state.recvCounter.toNat])

/-- `data[pos..pos + width]`, which panics past the end. -/
def readAt (data : Bytes) (pos width : Nat) : Except Abort (Window UInt8 width) :=
  match slice? data pos width with
  | some window => .ok window
  | none => .error .panic

def deserializeRatchet (data : Bytes) : Except Abort RatchetState := do
  if data.length < 112 then
    throw (.error (.sessionError "invalid session data"))
  let rootKey ← readAt data 0 32
  let sendingChainKey ← readAt data 32 32
  let receivingChainKey ← readAt data 64 32
  let ourLen := ofLeBytes (← readAt data 96 4).val
  let ourRatchetSecret ← readAt data 100 ourLen
  let theirLen := ofLeBytes (← readAt data (100 + ourLen) 4).val
  let theirRatchetPublic ← readAt data (104 + ourLen) theirLen
  let sendCounter ← readAt data (104 + ourLen + theirLen) 8
  let recvCounter ← readAt data (112 + ourLen + theirLen) 8
  pure {
    rootKey := rootKey
    sendingChainKey := sendingChainKey
    receivingChainKey := receivingChainKey
    ourRatchetSecret := ourRatchetSecret.val
    theirRatchetPublic := theirRatchetPublic.val
    sendCounter := UInt64.ofNat (ofLeBytes sendCounter.val)
    recvCounter := UInt64.ofNat (ofLeBytes recvCounter.val)
  }

namespace RatchetState

/-- The ratchet keys have lengths that fit their prefixes. -/
def Storable (state : RatchetState) : Prop :=
  state.ourRatchetSecret.length < 2 ^ 32 ∧ state.theirRatchetPublic.length < 2 ^ 32

/-- The fields as the encoding lays them out. -/
def parts (state : RatchetState) : List Bytes :=
  [state.rootKey.val, state.sendingChainKey.val, state.receivingChainKey.val,
    toLeBytes 4 state.ourRatchetSecret.length, state.ourRatchetSecret,
    toLeBytes 4 state.theirRatchetPublic.length, state.theirRatchetPublic,
    toLeBytes 8 state.sendCounter.toNat, toLeBytes 8 state.recvCounter.toNat]

end RatchetState

theorem lengthPrefix_eq_ok {field : Bytes} (h : field.length < 2 ^ 32) :
    lengthPrefix field = .ok (toLeBytes 4 field.length) := if_pos h

theorem readAt_flatten (before : List Bytes) (window : Bytes) (after : List Bytes) {pos width : Nat}
    (hPos : pos = before.flatten.length) (hWidth : window.length = width) :
    readAt (before ++ window :: after).flatten pos width = .ok ⟨window, hWidth⟩ := by
  rw [List.flatten_append, List.flatten_cons]
  simp only [readAt, slice?_append_list before.flatten window after.flatten hPos hWidth]

theorem serializeRatchet_eq_ok {state : RatchetState} (h : state.Storable) :
    serializeRatchet state = .ok state.parts.flatten := by
  simp only [serializeRatchet, lengthPrefix_eq_ok h.1, lengthPrefix_eq_ok h.2]
  rfl

theorem deserializeRatchet_parts {state : RatchetState} (h : state.Storable) :
    deserializeRatchet state.parts.flatten = .ok state := by
  obtain ⟨root, sending, receiving, our, their, sent, received⟩ := state
  obtain ⟨hOur, hTheir⟩ := h
  have hOurLen : ofLeBytes (toLeBytes 4 our.length) = our.length := ofLeBytes_toLeBytes_of_lt hOur
  have hTheirLen : ofLeBytes (toLeBytes 4 their.length) = their.length :=
    ofLeBytes_toLeBytes_of_lt hTheir
  have hSent : ofLeBytes (toLeBytes 8 sent.toNat) = sent.toNat :=
    ofLeBytes_toLeBytes_of_lt sent.toNat_lt
  have hReceived : ofLeBytes (toLeBytes 8 received.toNat) = received.toNat :=
    ofLeBytes_toLeBytes_of_lt received.toNat_lt
  generalize hData : (RatchetState.parts _).flatten = data
  have hLong : ¬ data.length < 112 := by
    rw [← hData]
    simp [RatchetState.parts, Window.length_val]
    omega
  have hRead : ∀ (before : List Bytes) (window : Bytes) (after : List Bytes) (pos width : Nat),
      (before ++ window :: after).flatten = data → pos = before.flatten.length →
      ∀ hWidth : window.length = width, readAt data pos width = .ok ⟨window, hWidth⟩ := by
    rintro before window after pos width rfl hPos hWidth
    exact readAt_flatten before window after hPos hWidth
  rw [RatchetState.parts] at hData
  have hRoot := hRead [] root.val _ 0 32 hData rfl root.property
  have hSending := hRead [root.val] sending.val _ 32 32 hData (by simp) sending.property
  have hReceiving := hRead [root.val, sending.val] receiving.val _ 64 32 hData (by simp)
    receiving.property
  have hOurPrefix := hRead [root.val, sending.val, receiving.val] (toLeBytes 4 our.length) _ 96 4
    hData (by simp) (length_toLeBytes 4 _)
  have hOurSecret := hRead [root.val, sending.val, receiving.val, toLeBytes 4 our.length] our _
    100 _ hData (by simp) hOurLen.symm
  have hTheirPrefix := hRead [root.val, sending.val, receiving.val, toLeBytes 4 our.length, our]
    (toLeBytes 4 their.length) _ (100 + our.length) 4 hData (by simp; omega) (length_toLeBytes 4 _)
  have hTheirPublic := hRead [root.val, sending.val, receiving.val, toLeBytes 4 our.length, our,
    toLeBytes 4 their.length] their _ (104 + our.length) _ hData (by simp; omega) hTheirLen.symm
  have hSendCounter := hRead [root.val, sending.val, receiving.val, toLeBytes 4 our.length, our,
    toLeBytes 4 their.length, their] (toLeBytes 8 sent.toNat) _ (104 + our.length + their.length) 8
    hData (by simp; omega) (length_toLeBytes 8 _)
  have hRecvCounter := hRead [root.val, sending.val, receiving.val, toLeBytes 4 our.length, our,
    toLeBytes 4 their.length, their, toLeBytes 8 sent.toNat] (toLeBytes 8 received.toNat) _
    (112 + our.length + their.length) 8 hData (by simp; omega) (length_toLeBytes 8 _)
  simp only [deserializeRatchet, if_neg hLong, hRoot, hSending, hReceiving, hOurPrefix, hOurLen,
    hOurSecret, hTheirPrefix, hTheirLen, hTheirPublic, hSendCounter, hRecvCounter, hSent, hReceived,
    bind, Except.bind, pure, Except.pure, UInt64.ofNat_toNat]

theorem deserializeRatchet_storable {data : Bytes} {state : RatchetState}
    (h : deserializeRatchet data = .ok state) : state.Storable := by
  unfold deserializeRatchet at h
  split at h
  · cases h
  · simp only [bind_eq_ok_iff] at h
    obtain ⟨_, _, _, _, _, _, ourLen, _, our, _, theirLen, _, their, _, _, _, _, _, h⟩ := h
    cases h
    refine ⟨?_, ?_⟩
    · calc our.val.length = ofLeBytes ourLen.val := our.property
        _ < 2 ^ 32 := ofLeBytes_window_lt ourLen
    · calc their.val.length = ofLeBytes theirLen.val := their.property
        _ < 2 ^ 32 := ofLeBytes_window_lt theirLen

end Rekindle.Signal
