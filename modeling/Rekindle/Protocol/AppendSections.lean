import Rekindle.Library.Interleaving
import Rekindle.Protocol.Log

/-! # Appends as sequences of calls

Tasks and devices that share the owner's key pair append to one log. Between two calls of one append
to the network the others may make theirs.
-/
namespace Rekindle.Protocol
set_option autoImplicit false

open Fallible Interleaving

variable {Device RecordKey KeyPair : Type} [DecidableEq Device] [DecidableEq RecordKey] [DecidableEq KeyPair]

/-- What an append does next, with what it has read. -/
inductive AppendStage (RecordKey KeyPair : Type) where
  | readSpine
  | createSegment (writer : KeyPair) (spine : LogSpine)
  | writeEmptyHead (spine : LogSpine) (segment : DHTShortArray RecordKey KeyPair)
  | openSegment (writer : KeyPair) (spine : LogSpine) (latestKey : String)
  | readSegment (writer : KeyPair) (spine : LogSpine) (recordKey : RecordKey)
  | readHead (spine : LogSpine) (segment : DHTShortArray RecordKey KeyPair)
  | writeSlot (spine : LogSpine) (segment : DHTShortArray RecordKey KeyPair) (head : ShortArrayHead) (slot : Nat)
  | writeHead (spine : LogSpine) (segment : DHTShortArray RecordKey KeyPair) (head : ShortArrayHead)
  | writeSpine (spine : LogSpine)

/-- The arguments of a call of `set_dht_value`. -/
structure DhtWrite (RecordKey : Type) where
  label : String
  key : RecordKey
  subkey : Nat
  data : Bytes

namespace AppendStage

variable (codec : Codec RecordKey) (log : DHTLog RecordKey KeyPair) (data : Bytes)

/-- The value that the next call sets, if it sets one, and what comes after it. -/
def write? : AppendStage RecordKey KeyPair → Option (DhtWrite RecordKey × (AppendStage RecordKey KeyPair ⊕ UInt64))
  | writeEmptyHead spine segment => some
    (⟨"write head", segment.recordKey, 0, codec.headToVec ⟨segment.stride, []⟩⟩,
      .inl (readHead { spine with segments := spine.segments ++ [codec.keyToString segment.recordKey] } segment))
  | writeSlot spine segment head slot => some
    (⟨"write slot " ++ toString slot, segment.recordKey, slot + 1, data⟩,
      .inl (writeHead spine segment { head with slots := head.slots ++ [slot] }))
  | writeHead spine segment head => some
    (⟨"write head", segment.recordKey, 0, codec.headToVec head⟩, .inl (writeSpine spine))
  | writeSpine spine => some
    (⟨"write spine", log.spineKey, 0, codec.spineToVec { spine with totalCount := spine.totalCount + 1 }⟩,
      .inr spine.totalCount)
  | _ => none

/-- The subkey that the next call reads, if it reads one. -/
def read? : AppendStage RecordKey KeyPair → Option (RecordKey × Nat)
  | readSpine => some (log.spineKey, 0)
  | readSegment _ _ recordKey => some (recordKey, 0)
  | readHead _ segment => some (segment.recordKey, 0)
  | _ => none

/-- The next call that sets no value. -/
def call : AppendStage RecordKey KeyPair → DhtM RecordKey KeyPair (AppendStage RecordKey KeyPair)
  | readSpine => do
    let writer ← ofExcept (orThrow log.ownerKeypair (.dhtError "cannot append to read-only log"))
    let spine ← log.readSpine codec
    if ← DHTLog.needsNewSegment spine then pure (createSegment writer spine)
    else do
      let latestKey ← ofExcept (orThrow spine.segments.getLast? (.dhtError "no segments in spine"))
      pure (openSegment writer spine latestKey)
  | createSegment writer spine =>
    if spine.segmentCapacity = 65535 then throw (.dhtError "capacity overflow (max 65534)") else do
      let (key, keypair) ← createDhtRecord "create short array record" (spine.segmentCapacity + 1) (some writer)
      reach fun _ => .dhtError "no owner secret after create"
      pure (writeEmptyHead spine ⟨key, some keypair, spine.segmentCapacity⟩)
  | openSegment writer spine latestKey => do
    let recordKey ← ofExcept ((codec.parseKey latestKey).mapError fun e =>
      .dhtError ("invalid key '" ++ latestKey ++ "': " ++ e))
    openDhtRecord "open short array" recordKey (some writer)
    pure (readSegment writer spine recordKey)
  | readSegment writer spine recordKey => do
    let head ← readHeadRaw codec recordKey
    pure (readHead spine ⟨recordKey, some writer, head.stride⟩)
  | readHead spine segment => do
    let head ← readHeadRaw codec segment.recordKey
    if segment.stride ≤ head.slots.length then throw (.dhtError "short array is full") else
      pure (writeSlot spine segment head (findFreeSlot segment.stride head))
  | stage => pure stage

/-- The next call of an append that runs alone. -/
def advance (stage : AppendStage RecordKey KeyPair) :
    DhtM RecordKey KeyPair (AppendStage RecordKey KeyPair ⊕ UInt64) :=
  match stage.write? codec log data with
  | some (write, next) => do
    setDhtValue write.label write.key write.subkey write.data
    pure next
  | none => do
    let stage ← stage.call codec log
    pure (.inl stage)

/-! ## An append that runs alone -/

def finish (spine : LogSpine) : DhtM RecordKey KeyPair UInt64 := do
  log.writeSpine codec { spine with totalCount := spine.totalCount + 1 }
  pure spine.totalCount

/-- What is left of `append` at a stage. -/
def rest : AppendStage RecordKey KeyPair → DhtM RecordKey KeyPair UInt64
  | readSpine => log.append codec data
  | createSegment writer spine => do
    let (segment, _) ← DHTShortArray.create codec spine.segmentCapacity (some writer)
    let _ ← segment.add codec data
    finish codec log { spine with segments := spine.segments ++ [codec.keyToString segment.recordKey] }
  | writeEmptyHead spine segment => do
    setDhtValue "write head" segment.recordKey 0 (codec.headToVec ⟨segment.stride, []⟩)
    let _ ← segment.add codec data
    finish codec log { spine with segments := spine.segments ++ [codec.keyToString segment.recordKey] }
  | openSegment writer spine latestKey => do
    let segment ← DHTShortArray.open codec latestKey (some writer)
    let _ ← segment.add codec data
    finish codec log spine
  | readSegment writer spine recordKey => do
    let head ← readHeadRaw codec recordKey
    let _ ← (⟨recordKey, some writer, head.stride⟩ : DHTShortArray RecordKey KeyPair).add codec data
    finish codec log spine
  | readHead spine segment => do
    let _ ← segment.add codec data
    finish codec log spine
  | writeSlot spine segment head slot => do
    setDhtValue ("write slot " ++ toString slot) segment.recordKey (slot + 1) data
    setDhtValue "write head" segment.recordKey 0 (codec.headToVec { head with slots := head.slots ++ [slot] })
    finish codec log spine
  | writeHead spine segment head => do
    setDhtValue "write head" segment.recordKey 0 (codec.headToVec head)
    finish codec log spine
  | writeSpine spine => finish codec log spine

variable {codec log data}

theorem call_bind_rest (stage : AppendStage RecordKey KeyPair) (hCall : stage.write? codec log data = none) :
    stage.call codec log >>= rest codec log data = rest codec log data stage := by
  cases stage with
  | readSpine =>
    simp only [call, rest, DHTLog.append, bind_assoc]
    refine bind_congr fun writer => bind_congr fun spine => bind_congr fun opens => ?_
    cases opens with
    | true => simp [rest, finish]
    | false => simp [rest, finish]
  | createSegment writer spine =>
    simp only [call, rest, DHTShortArray.create]
    by_cases hCapacity : spine.segmentCapacity = 65535
    · simp only [hCapacity, if_true]
      rfl
    · simp [hCapacity, rest]
  | openSegment writer spine latestKey => simp [call, rest, DHTShortArray.open]
  | readSegment writer spine recordKey => simp [call, rest]
  | readHead spine segment =>
    simp only [call, rest, DHTShortArray.add, bind_assoc]
    refine bind_congr fun head => ?_
    by_cases hFull : segment.stride ≤ head.slots.length
    · simp only [hFull, if_true]
      rfl
    · simp [hFull, rest]
  | _ => cases hCall

theorem implements_write {stage next : AppendStage RecordKey KeyPair} {write : DhtWrite RecordKey}
    (hWrite : stage.write? codec log data = some (write, .inl next)) {x : DhtM RecordKey KeyPair UInt64}
    (hRest : Implements (advance codec log data) next x) :
    Implements (advance codec log data) stage
      (setDhtValue write.label write.key write.subkey write.data >>= fun _ => x) := by
  refine Implements.of_going ?_ fun _ => hRest
  unfold advance
  rw [hWrite]

theorem rest_of_write {stage next : AppendStage RecordKey KeyPair} {write : DhtWrite RecordKey}
    (hWrite : stage.write? codec log data = some (write, .inl next)) :
    rest codec log data stage =
      (setDhtValue write.label write.key write.subkey write.data >>= fun _ => rest codec log data next) := by
  cases stage with
  | writeEmptyHead spine segment =>
    cases hWrite
    rfl
  | writeSlot spine segment head slot =>
    cases hWrite
    rfl
  | writeHead spine segment head =>
    cases hWrite
    rfl
  | _ => cases hWrite

omit [DecidableEq RecordKey] [DecidableEq KeyPair] in
/-- How many calls are left at most. -/
def calls : AppendStage RecordKey KeyPair → Nat
  | readSpine => 8
  | createSegment _ _ => 6
  | writeEmptyHead _ _ => 5
  | openSegment _ _ _ => 6
  | readSegment _ _ _ => 5
  | readHead _ _ => 4
  | writeSlot _ _ _ _ => 3
  | writeHead _ _ _ => 2
  | writeSpine _ => 1

omit [DecidableEq RecordKey] [DecidableEq KeyPair] in
theorem calls_of_write {stage next : AppendStage RecordKey KeyPair} {write : DhtWrite RecordKey}
    (hWrite : stage.write? codec log data = some (write, .inl next)) : next.calls < stage.calls := by
  cases stage <;> cases hWrite <;> simp [calls]

omit [DecidableEq KeyPair] in
theorem calls_of_call {stage next : AppendStage RecordKey KeyPair} (hCall : stage.write? codec log data = none)
    {dht after : Dht RecordKey KeyPair} (hRun : (stage.call codec log).run dht = .ok next after) :
    next.calls < stage.calls := by
  revert next after
  change Returns (fun next _ => next.calls < stage.calls) (stage.call codec log) dht
  have hAny {α : Type} (x : DhtM RecordKey KeyPair α) (dht : Dht RecordKey KeyPair) :
      Returns (fun _ _ => True) x dht := fun _ _ _ => trivial
  cases stage with
  | readSpine =>
    refine (hAny _ _).bind fun writer _ _ => (hAny _ _).bind fun spine _ _ => (hAny _ _).bind fun opens _ _ => ?_
    cases opens with
    | true => exact returns_pure (by simp [calls])
    | false => exact (hAny _ _).bind fun latestKey _ _ => returns_pure (by simp [calls])
  | createSegment writer spine =>
    simp only [call]
    by_cases hCapacity : spine.segmentCapacity = 65535
    · rw [if_pos hCapacity]
      rintro _ _ ⟨⟩
    · rw [if_neg hCapacity]
      exact (hAny _ _).bind fun _ _ _ => (hAny _ _).bind fun _ _ _ => returns_pure (by simp [calls])
  | openSegment writer spine latestKey =>
    exact (hAny _ _).bind fun _ _ _ => (hAny _ _).bind fun _ _ _ => returns_pure (by simp [calls])
  | readSegment writer spine recordKey => exact (hAny _ _).bind fun _ _ _ => returns_pure (by simp [calls])
  | readHead spine segment =>
    refine (hAny _ _).bind fun head _ _ => ?_
    split
    · rintro _ _ ⟨⟩
    · exact returns_pure (by simp [calls])
  | _ => cases hCall

/-- Alone, the sections of a task do what `append` does. -/
theorem implements_rest (stage : AppendStage RecordKey KeyPair) :
    Implements (advance codec log data) stage (rest codec log data stage) := by
  induction hCalls : stage.calls using Nat.strongRecOn generalizing stage with
  | ind n ih =>
    subst hCalls
    cases hWrite : stage.write? codec log data with
    | none =>
      rw [← call_bind_rest stage hWrite]
      refine Implements.of_reached ?_ fun dht next after hRun => ih _ (calls_of_call hWrite hRun) next rfl
      unfold advance
      rw [hWrite]
    | some entry =>
      obtain ⟨write, next | position⟩ := entry
      · rw [rest_of_write hWrite]
        exact implements_write hWrite (ih _ (calls_of_write hWrite) next rfl)
      · cases stage with
        | writeSpine spine =>
          cases hWrite
          exact Implements.of_section rfl fun _ => .inr ⟨spine.totalCount, rfl, rfl⟩
        | _ => cases hWrite

end AppendStage

end Rekindle.Protocol
