import Rekindle.Protocol.ShortArray

/-! # The DHT log

An append-only log: a spine record counts the entries and names the segments, each of them a short
array.
-/
namespace Rekindle.Protocol
set_option autoImplicit false

open Fallible

def defaultSegmentCapacity : Nat := 255

structure DHTLog (RecordKey KeyPair : Type) where
  spineKey : RecordKey
  ownerKeypair : Option KeyPair
  deriving DecidableEq

variable {RecordKey KeyPair : Type} [DecidableEq RecordKey] [DecidableEq KeyPair] (codec : Codec RecordKey)

namespace DHTLog

def create : DhtM RecordKey KeyPair (DHTLog RecordKey KeyPair × KeyPair) := do
  let (key, keypair) ← createDhtRecord "create log spine" 1 none
  reach fun _ => .dhtError "no owner secret after create"
  setDhtValue "write spine" key 0 (codec.spineToVec ⟨0, defaultSegmentCapacity, []⟩)
  pure (⟨key, some keypair⟩, keypair)

/-- `open_write` with a writer, `open_read` without. -/
def openAs (key : String) (writer : Option KeyPair) : DhtM RecordKey KeyPair (DHTLog RecordKey KeyPair) := do
  let spineKey ← ofExcept ((codec.parseKey key).mapError fun e =>
    .dhtError ("invalid key '" ++ key ++ "': " ++ e))
  openDhtRecord "open log spine" spineKey writer
  pure ⟨spineKey, writer⟩

def openWrite (key : String) (writer : KeyPair) : DhtM RecordKey KeyPair (DHTLog RecordKey KeyPair) :=
  openAs codec key (some writer)

def openRead (key : String) : DhtM RecordKey KeyPair (DHTLog RecordKey KeyPair) := openAs codec key none

variable (log : DHTLog RecordKey KeyPair)

def readSpine : DhtM RecordKey KeyPair LogSpine := do
  match ← getDhtValue "read spine" log.spineKey 0 with
  | some bytes => ofExcept ((codec.spineFromSlice bytes).mapError fun e => .deserialization ("spine parse: " ++ e))
  | none => throw (.dhtError "spine subkey not set")

def writeSpine (spine : LogSpine) : DhtM RecordKey KeyPair Unit :=
  setDhtValue "write spine" log.spineKey 0 (codec.spineToVec spine)

/-- The remainder is only taken when there are segments and entries. -/
def needsNewSegment (spine : LogSpine) : DhtM RecordKey KeyPair Bool :=
  if spine.segments = [] then pure true
  else if spine.totalCount = 0 then pure false
  else if spine.segmentCapacity = 0 then throw .panicked
  else pure (spine.totalCount.toNat % spine.segmentCapacity = 0)

def append (data : Bytes) : DhtM RecordKey KeyPair UInt64 := do
  let writer ← ofExcept (orThrow log.ownerKeypair (.dhtError "cannot append to read-only log"))
  let spine ← readSpine codec log
  let segments ←
    if ← needsNewSegment spine then do
      let (segment, _) ← DHTShortArray.create codec spine.segmentCapacity (some writer)
      let segments := spine.segments ++ [codec.keyToString segment.recordKey]
      let _ ← segment.add codec data
      pure segments
    else do
      let latestKey ← ofExcept (orThrow spine.segments.getLast? (.dhtError "no segments in spine"))
      let segment ← DHTShortArray.open codec latestKey (some writer)
      let _ ← segment.add codec data
      pure spine.segments
  let position := spine.totalCount
  writeSpine codec log { spine with totalCount := spine.totalCount + 1, segments := segments }
  pure position

def get (pos : UInt64) : DhtM RecordKey KeyPair (Option Bytes) := do
  let spine ← readSpine codec log
  if spine.totalCount ≤ pos then pure none
  else if spine.segmentCapacity = 0 then throw .panicked
  else
    match spine.segments[pos.toNat / spine.segmentCapacity]? with
    | none => pure none
    | some key =>
      let segment ← DHTShortArray.open codec key log.ownerKeypair
      segment.get codec (pos.toNat % spine.segmentCapacity)

def len : DhtM RecordKey KeyPair UInt64 := do
  let spine ← readSpine codec log
  pure spine.totalCount

/-- The loop of `tail` from `pos` on, with the segment it has open: `count` positions are left. -/
def tailFrom (spine : LogSpine) (pos : Nat) :
    (count : Nat) → (current : Option (Nat × DHTShortArray RecordKey KeyPair)) →
      DhtM RecordKey KeyPair (List Bytes)
  | 0, _ => pure []
  | count + 1, current => do
    let segmentIdx := pos / spine.segmentCapacity
    match current.filter (·.1 = segmentIdx) with
    | some (_, segment) => do
      let entry ← segment.get codec (pos % spine.segmentCapacity)
      let rest ← tailFrom spine (pos + 1) count current
      pure (entry.toList ++ rest)
    | none =>
      match spine.segments[segmentIdx]? with
      | none => pure []
      | some key => do
        let segment ← DHTShortArray.open codec key log.ownerKeypair
        let entry ← segment.get codec (pos % spine.segmentCapacity)
        let rest ← tailFrom spine (pos + 1) count (some (segmentIdx, segment))
        pure (entry.toList ++ rest)

def tail (count : UInt32) : DhtM RecordKey KeyPair (List Bytes) := do
  let spine ← readSpine codec log
  if spine.totalCount = 0 ∨ count = 0 then pure []
  else if spine.segmentCapacity = 0 then throw .panicked
  else
    let start := spine.totalCount.toNat - count.toNat
    tailFrom codec log spine start (spine.totalCount.toNat - start) none

end DHTLog

end Rekindle.Protocol
