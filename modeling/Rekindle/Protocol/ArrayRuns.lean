import Rekindle.Library.Runs
import Rekindle.Protocol.ArrayStates
import Rekindle.Protocol.Reference

/-! # Short arrays over whole runs

The owner of a short array adds to it, removes from it, reads it and opens it again. It is compared
with a list of bounded length.
-/
namespace Rekindle.Protocol
set_option autoImplicit false

open Fallible

inductive ArrayOp where
  | add (data : Bytes)
  | get (index : Nat)
  | remove (index : Nat)
  | len
  | clear
  | getAll
  /-- The owner opens the array in a new process. -/
  | reopen

inductive ArrayAnswer where
  | index (index : Nat)
  | entry (entry : Option Bytes)
  | length (length : Nat)
  | entries (entries : List Bytes)
  | done
  deriving DecidableEq

abbrev ArrayReply := Except ProtocolError ArrayAnswer

/-! ## The list -/

structure ListArray where
  elements : List Bytes
  capacity : Nat

def ListArray.step (list : ListArray) : ArrayOp → ArrayReply × ListArray
  | .add data =>
    if list.elements.length < list.capacity then
      (.ok (.index list.elements.length), { list with elements := list.elements ++ [data] })
    else (.error (.dhtError "short array is full"), list)
  | .get index => (.ok (.entry list.elements[index]?), list)
  | .remove index =>
    if index < list.elements.length then (.ok .done, { list with elements := list.elements.eraseIdx index })
    else (.error (.dhtError (DHTShortArray.outOfBounds index list.elements.length)), list)
  | .len => (.ok (.length list.elements.length), list)
  | .clear => (.ok .done, { list with elements := [] })
  | .getAll => (.ok (.entries list.elements), list)
  | .reopen => (.ok .done, list)

def ListArray.replies : ListArray → List ArrayOp → List ArrayReply
  | _, [] => []
  | list, op :: rest => (list.step op).1 :: (list.step op).2.replies rest

/-! ## The array -/

/-- An operation, and how its calls to the network end. -/
structure ArrayEvent where
  op : ArrayOp
  faults : List (Option String)

/-- A short array in use by its owner. -/
structure ArrayWorld (RecordKey KeyPair : Type) where
  dht : Dht RecordKey KeyPair
  array : DHTShortArray RecordKey KeyPair
  owner : KeyPair

section Runs

variable {RecordKey KeyPair : Type}

def ArrayWorld.under (world : ArrayWorld RecordKey KeyPair) (event : ArrayEvent) : Dht RecordKey KeyPair :=
  { world.dht with faults := event.faults }

/-- The world after a call that returned or failed. -/
def ArrayWorld.settle {α : Type} (world : ArrayWorld RecordKey KeyPair) (answer : α → ArrayAnswer) :
    EStateM.Result ProtocolError (Dht RecordKey KeyPair) α → ArrayReply × ArrayWorld RecordKey KeyPair
  | .ok a dht => (.ok (answer a), { world with dht := dht })
  | .error e dht => (.error e, { world with dht := dht })

/-- The world after a new process has tried to open the array: where it cannot, the old one goes on. -/
def ArrayWorld.takeOver (world : ArrayWorld RecordKey KeyPair) :
    EStateM.Result ProtocolError (Dht RecordKey KeyPair) (DHTShortArray RecordKey KeyPair) →
      ArrayReply × ArrayWorld RecordKey KeyPair
  | .ok array opened => (.ok .done, { world with dht := opened, array := array })
  | .error e failed => (.error e, { world with dht := { world.dht with failures := failed.failures } })

variable [DecidableEq RecordKey] [DecidableEq KeyPair] (codec : Codec RecordKey)

def ArrayWorld.step (world : ArrayWorld RecordKey KeyPair) (event : ArrayEvent) :
    ArrayReply × ArrayWorld RecordKey KeyPair :=
  match event.op with
  | .add data => world.settle .index ((world.array.add codec data).run (world.under event))
  | .get index => world.settle .entry ((world.array.get codec index).run (world.under event))
  | .remove index => world.settle (fun _ => .done) ((world.array.remove codec index).run (world.under event))
  | .len => world.settle .length ((world.array.len codec).run (world.under event))
  | .clear => world.settle (fun _ => .done) ((world.array.clear codec).run (world.under event))
  | .getAll => world.settle .entries ((world.array.getAll codec).run (world.under event))
  | .reopen => world.takeOver
      ((DHTShortArray.open codec (codec.keyToString world.array.recordKey) (some world.owner)).run
        { world.under event with opened := fun _ => none })

def ArrayWorld.next (world : ArrayWorld RecordKey KeyPair) (event : ArrayEvent) : ArrayWorld RecordKey KeyPair :=
  (world.step codec event).2

def ArrayWorld.replies : ArrayWorld RecordKey KeyPair → List ArrayEvent → List ArrayReply
  | _, [] => []
  | world, event :: rest => (world.step codec event).1 :: (world.next codec event).replies rest

/-- The network fails no call of the run. -/
def ArrayWorld.Calm (world : ArrayWorld RecordKey KeyPair) (events : List ArrayEvent) : Prop :=
  Runs.Along (ArrayWorld.next codec) (fun world event => (world.next codec event).dht.failures = world.dht.failures)
    world events

/-- The head as it is stored. -/
def ArrayWorld.head? (world : ArrayWorld RecordKey KeyPair) : Option ShortArrayHead := do
  let record ← world.dht.records world.array.recordKey
  let bytes ← record.values 0
  (codec.headFromSlice bytes).toOption

/-- The elements as they are stored, in the order of the head. -/
def ArrayWorld.elements (world : ArrayWorld RecordKey KeyPair) : List Bytes :=
  match world.head? codec, world.dht.records world.array.recordKey with
  | some head, some record => head.slots.map fun slot => (record.store slot).getD []
  | _, _ => []

/-! ## One step -/

/-- What a failed operation has made of the elements. -/
def Remains (dht : Dht RecordKey KeyPair) (elements : List Bytes) : ArrayOp → List Bytes → Prop
  | .remove index, remaining => ¬dht.Passes 2 ∧ remaining = elements ∨ dht.Passes 2 ∧ remaining = elements.set index []
  | .clear, remaining => ∃ done, (∀ i < elements.length, i < done ↔ dht.Passes (i + 2)) ∧
      remaining = emptied done elements
  | _, remaining => remaining = elements

variable {codec} {world : ArrayWorld RecordKey KeyPair} {slots : List Nat} {elements : List Bytes}

/-- A step of an array with these elements: the list answers it, or the network has failed it. -/
structure ArrayKept (codec : Codec RecordKey) (world : ArrayWorld RecordKey KeyPair) (elements : List Bytes)
    (op : ArrayOp) (after : ArrayReply × ArrayWorld RecordKey KeyPair) : Prop where
  failures : after.2.dht.failures = world.dht.failures
  stride : after.2.array.stride = world.array.stride
  shelved : ∃ slots remaining, Shelved codec after.2.dht after.2.array after.2.owner slots remaining ∧
    (after.1, ⟨remaining, world.array.stride⟩) = (⟨elements, world.array.stride⟩ : ListArray).step op

structure ArrayFailed (codec : Codec RecordKey) (world : ArrayWorld RecordKey KeyPair) (elements : List Bytes)
    (event : ArrayEvent) (after : ArrayReply × ArrayWorld RecordKey KeyPair) : Prop where
  failures : after.2.dht.failures = world.dht.failures + 1
  stride : after.2.array.stride = world.array.stride
  shelved : ∃ slots remaining, Shelved codec after.2.dht after.2.array after.2.owner slots remaining ∧
    Remains (world.under event) elements event.op remaining

omit [DecidableEq RecordKey] [DecidableEq KeyPair] in
/-- A call is answered as the list answers, or the network has failed it. -/
theorem settle_kept_or_failed {α : Type} {event : ArrayEvent} {answer : α → ArrayAnswer} {x : DhtM RecordKey KeyPair α}
    (h : Settles
      (fun a after => after.failures = world.dht.failures ∧ ∃ slots remaining,
        Shelved codec after world.array world.owner slots remaining ∧
        (.ok (answer a), ⟨remaining, world.array.stride⟩) =
          (⟨elements, world.array.stride⟩ : ListArray).step event.op)
      (fun e after => (after.failures = world.dht.failures ∧ ∃ slots remaining,
          Shelved codec after world.array world.owner slots remaining ∧
          (.error e, ⟨remaining, world.array.stride⟩) =
            (⟨elements, world.array.stride⟩ : ListArray).step event.op) ∨
        (after.failures = world.dht.failures + 1 ∧ ∃ slots remaining,
          Shelved codec after world.array world.owner slots remaining ∧
          Remains (world.under event) elements event.op remaining))
      x (world.under event)) :
    ArrayKept codec world elements event.op (world.settle answer (x.run (world.under event))) ∨
      ArrayFailed codec world elements event (world.settle answer (x.run (world.under event))) := by
  rcases h.cases with ⟨a, after, hRun, hFailures, hShelved⟩ | ⟨e, after, hRun, hKept | hFailed⟩
  · rw [hRun]
    exact .inl ⟨hFailures, rfl, hShelved⟩
  · rw [hRun]
    exact .inl ⟨hKept.1, rfl, hKept.2⟩
  · rw [hRun]
    exact .inr ⟨hFailed.1, rfl, hFailed.2⟩

theorem array_step (hLaws : codec.Laws) (h : Shelved codec world.dht world.array world.owner slots elements)
    (event : ArrayEvent) :
    ArrayKept codec world elements event.op (world.step codec event) ∨
      ArrayFailed codec world elements event (world.step codec event) := by
  have hUnder : Shelved codec (world.under event) world.array world.owner slots elements := h.of_same rfl rfl
  obtain ⟨op, faults⟩ := event
  cases op with
  | add data =>
    refine settle_kept_or_failed ((hUnder.add_settles hLaws data).mono ?_ ?_)
    · rintro _ after ⟨rfl, hRoom, hFailures, slot, hAdded⟩
      exact ⟨hFailures, _, _, hAdded, by simp [ListArray.step, hRoom]⟩
    · rintro e after ⟨⟨rfl, hFull, hFailures⟩ | hFailures, hStill⟩
      · exact .inl ⟨hFailures, _, _, hStill, by simp [ListArray.step, Nat.not_lt.mpr hFull]⟩
      · exact .inr ⟨hFailures, _, _, hStill, rfl⟩
  | get index =>
    refine settle_kept_or_failed ((hUnder.get_settles hLaws index).mono ?_ ?_)
    · rintro _ after ⟨rfl, hFailures, hStill⟩
      exact ⟨hFailures, _, _, hStill, rfl⟩
    · rintro _ after ⟨-, hFailures, hStill⟩
      exact .inr ⟨hFailures, _, _, hStill, rfl⟩
  | remove index =>
    refine settle_kept_or_failed ((hUnder.remove_settles hLaws index).mono ?_ ?_)
    · rintro _ after ⟨hIndex, hFailures, hRemoved⟩
      exact ⟨hFailures, _, _, hRemoved, by simp [ListArray.step, hIndex]⟩
    · rintro e after (⟨hIndex, rfl, hFailures, hStill⟩ | ⟨hFailures, ⟨hPasses, hStill⟩ | ⟨hPasses, hCleared⟩⟩)
      · exact .inl ⟨hFailures, _, _, hStill, by simp [ListArray.step, Nat.not_lt.mpr hIndex]⟩
      · exact .inr ⟨hFailures, _, _, hStill, .inl ⟨hPasses, rfl⟩⟩
      · exact .inr ⟨hFailures, _, _, hCleared, .inr ⟨hPasses, rfl⟩⟩
  | len =>
    refine settle_kept_or_failed ((hUnder.len_settles hLaws).mono ?_ ?_)
    · rintro _ after ⟨rfl, hFailures, hStill⟩
      exact ⟨hFailures, _, _, hStill, rfl⟩
    · rintro _ after ⟨-, hFailures, hStill⟩
      exact .inr ⟨hFailures, _, _, hStill, rfl⟩
  | clear =>
    refine settle_kept_or_failed ((hUnder.clear_settles hLaws).mono ?_ ?_)
    · rintro _ after ⟨hFailures, hEmpty⟩
      exact ⟨hFailures, _, _, hEmpty, rfl⟩
    · rintro _ after ⟨hFailures, done, hDone, hCleared⟩
      exact .inr ⟨hFailures, _, _, hCleared, done, hDone, rfl⟩
  | getAll =>
    refine settle_kept_or_failed ((hUnder.getAll_settles hLaws).mono ?_ ?_)
    · rintro _ after ⟨rfl, hFailures, hStill⟩
      exact ⟨hFailures, _, _, hStill, rfl⟩
    · rintro _ after ⟨-, hFailures, hStill⟩
      exact .inr ⟨hFailures, _, _, hStill, rfl⟩
  | reopen =>
    let closed : Dht RecordKey KeyPair := { world.under ⟨.reopen, faults⟩ with opened := fun _ => none }
    have hRecords : closed.records = world.dht.records := rfl
    have hOpen := h.open_settles hLaws hRecords
    change ArrayKept codec world elements .reopen (world.takeOver (EStateM.run _ closed)) ∨
      ArrayFailed codec world elements ⟨.reopen, faults⟩ (world.takeOver (EStateM.run _ closed))
    rcases hOpen.cases with ⟨_, after, hRun, rfl, hFailures, hStill⟩ | ⟨e, after, hRun, hFailures⟩
    · rw [hRun]
      exact .inl ⟨hFailures, rfl, _, _, hStill, rfl⟩
    · rw [hRun]
      exact .inr ⟨hFailures, rfl, _, _, h.of_same rfl rfl, rfl⟩

omit [DecidableEq RecordKey] [DecidableEq KeyPair] in
theorem ArrayWorld.elements_of_shelved (hLaws : codec.Laws)
    (h : Shelved codec world.dht world.array world.owner slots elements) :
    world.head? codec = some ⟨world.array.stride, slots⟩ ∧ world.elements codec = elements := by
  obtain ⟨record, hRecord, -, hLists⟩ := h.record
  have hHead : world.head? codec = some ⟨world.array.stride, slots⟩ := by
    simp [ArrayWorld.head?, hRecord, hLists.head, hLaws.head, Except.toOption]
  refine ⟨hHead, ?_⟩
  have hValues := congrArg (List.map (·.getD [])) hLists.holds.values
  simp only [List.map_map] at hValues
  simp only [ArrayWorld.elements, hHead, hRecord]
  exact hValues.trans (List.map_id _)

/-! ## Runs -/

/-- The slots of the head are different ones of the array. -/
def ArrayWorld.HeadSound (codec : Codec RecordKey) (world : ArrayWorld RecordKey KeyPair) (stride : Nat) : Prop :=
  ∃ head, world.head? codec = some head ∧ head.stride = stride ∧ head.slots.Nodup ∧
    (∀ slot ∈ head.slots, slot < stride) ∧ head.slots.length ≤ stride

theorem ArrayWorld.headSound_of_shelved (hLaws : codec.Laws)
    (h : Shelved codec world.dht world.array world.owner slots elements) :
    world.HeadSound codec world.array.stride := by
  refine ⟨_, (elements_of_shelved hLaws h).1, rfl, ?_⟩
  obtain ⟨_, -, -, hLists⟩ := h.record
  exact ⟨hLists.holds.nodup, hLists.holds.lt, hLists.holds.length_eq ▸ hLists.holds.length_le⟩

/-- As long as the network fails no call, the array answers as the list does. -/
theorem Shelved.replies (hLaws : codec.Laws) (h : Shelved codec world.dht world.array world.owner slots elements)
    (events : List ArrayEvent) (hCalm : world.Calm codec events) :
    world.replies codec events =
        (⟨elements, world.array.stride⟩ : ListArray).replies (events.map ArrayEvent.op) ∧
      (Runs.final (ArrayWorld.next codec) world events).HeadSound codec world.array.stride := by
  induction events generalizing world slots elements with
  | nil => exact ⟨rfl, ArrayWorld.headSound_of_shelved hLaws h⟩
  | cons event rest ih =>
    obtain ⟨hSame, hRest⟩ := hCalm
    rcases array_step hLaws h event with hKept | hFailed
    · obtain ⟨slots', remaining, hShelved, hAnswer⟩ := hKept.shelved
      obtain ⟨hReplies, hHead⟩ := ih hShelved hRest
      rw [hKept.stride] at hReplies hHead
      refine ⟨?_, hHead⟩
      rw [ArrayWorld.replies, List.map_cons, ListArray.replies, ← hAnswer]
      exact congrArg _ hReplies
    · have hMore : (world.next codec event).dht.failures = world.dht.failures + 1 := hFailed.failures
      omega

end Runs

end Rekindle.Protocol
