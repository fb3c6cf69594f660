import Rekindle.Protocol.ArrayRuns

/-! # Failed changes to a short array

What a reader sees after an operation that failed. An addition writes the head last, and nobody sees
it before. A removal empties the slot first, while the head still lists it.
-/
namespace Rekindle.Protocol
set_option autoImplicit false

open Fallible

/-- An operation whose calls all go through. -/
def calmly (op : ArrayOp) : ArrayEvent := ⟨op, []⟩

def ArrayOp.Reads : ArrayOp → Prop
  | .get _ | .len | .getAll => True
  | _ => False

section Faults

variable {RecordKey KeyPair : Type} {codec : Codec RecordKey} {elements remaining : List Bytes}

/-- The elements that the operation empties before it is cut off were empty. -/
def SparesElements (dht : Dht RecordKey KeyPair) (elements : List Bytes) : ArrayOp → Prop
  | .remove index => dht.Passes 2 → ∀ element, elements[index]? = some element → element = []
  | .clear => ∀ i element, elements[i]? = some element → dht.Passes (i + 2) → element = []
  | _ => True

theorem set_eq_iff (elements : List Bytes) (index : Nat) (data : Bytes) :
    elements.set index data = elements ↔ ∀ element, elements[index]? = some element → element = data := by
  constructor
  · intro hSame element hElement
    have hIndex := (List.getElem?_eq_some_iff.mp hElement).1
    have hSet : (elements.set index data)[index]? = some data := List.getElem?_set_self hIndex
    rw [hSame, hElement] at hSet
    exact Option.some.inj hSet
  · intro hElement
    by_cases hIndex : index < elements.length
    · rw [← hElement _ (List.getElem?_eq_getElem hIndex), List.set_getElem_self]
    · exact List.set_eq_of_length_le (Nat.not_lt.mp hIndex)

theorem Remains.eq_iff {dht : Dht RecordKey KeyPair} {op : ArrayOp} (h : Remains dht elements op remaining) :
    remaining = elements ↔ SparesElements dht elements op := by
  cases op with
  | remove index =>
    rcases h with ⟨hRefused, rfl⟩ | ⟨hPasses, rfl⟩
    · exact iff_of_true rfl fun hPasses => absurd hPasses hRefused
    · rw [set_eq_iff]
      exact ⟨fun hEmpty _ => hEmpty, fun hSpares => hSpares hPasses⟩
  | clear =>
    obtain ⟨done, hDone, rfl⟩ := h
    rw [emptied_eq_iff]
    constructor
    · intro hEmpty i element hElement hPasses
      exact hEmpty i element hElement ((hDone i (List.getElem?_eq_some_iff.mp hElement).1).mpr hPasses)
    · intro hSpares i element hElement hIndex
      exact hSpares i element hElement ((hDone i (List.getElem?_eq_some_iff.mp hElement).1).mp hIndex)
  | _ => exact iff_of_true h trivial

/-- The list answers with an error only to what changes nothing. -/
theorem ListArray.step_error {list after : ListArray} {op : ArrayOp} {e : ProtocolError}
    (h : (.error e, after) = list.step op) (dht : Dht RecordKey KeyPair) :
    after = list ∧ SparesElements dht list.elements op := by
  cases op with
  | add data =>
    simp only [ListArray.step] at h
    split at h
    · cases h
    · exact ⟨(Prod.mk.inj h).2, trivial⟩
  | remove index =>
    simp only [ListArray.step] at h
    split at h
    · cases h
    · rename_i hIndex
      refine ⟨(Prod.mk.inj h).2, fun _ element hElement => ?_⟩
      exact absurd (List.getElem?_eq_some_iff.mp hElement).1 hIndex
  | _ => cases h

variable [DecidableEq RecordKey] [DecidableEq KeyPair] {world : ArrayWorld RecordKey KeyPair} {slots : List Nat}

variable (codec) in
/-- Every undisturbed reading is answered as before. -/
def SameView (before after : ArrayWorld RecordKey KeyPair) : Prop :=
  ∀ op : ArrayOp, op.Reads → (after.step codec (calmly op)).1 = (before.step codec (calmly op)).1

variable (codec) in
/-- The condition on the state before the operation and on the calls that the network fails. -/
def Spares (world : ArrayWorld RecordKey KeyPair) (event : ArrayEvent) : Prop :=
  SparesElements (world.under event) (world.elements codec) event.op

theorem Shelved.read (hLaws : codec.Laws) (h : Shelved codec world.dht world.array world.owner slots elements)
    {op : ArrayOp} (hReads : op.Reads) :
    (world.step codec (calmly op)).1 = ((⟨elements, world.array.stride⟩ : ListArray).step op).1 := by
  have hUnder : Shelved codec (world.under (calmly op)) world.array world.owner slots elements := h.of_same rfl rfl
  have hPasses (n : Nat) : (world.under (calmly op)).Passes n := fun _ _ => rfl
  cases op with
  | get index =>
    rcases (hUnder.get_settles hLaws index).cases with ⟨_, after, hRun, rfl, -⟩ | ⟨_, _, -, hRefused, -⟩
    · exact congrArg (fun result => (world.settle ArrayAnswer.entry result).1) hRun
    · exact absurd (hPasses _) hRefused
  | len =>
    rcases (hUnder.len_settles hLaws).cases with ⟨_, after, hRun, rfl, -⟩ | ⟨_, _, -, hRefused, -⟩
    · exact congrArg (fun result => (world.settle ArrayAnswer.length result).1) hRun
    · exact absurd (hPasses _) hRefused
  | getAll =>
    rcases (hUnder.getAll_settles hLaws).cases with ⟨_, after, hRun, rfl, -⟩ | ⟨_, _, -, hRefused, -⟩
    · exact congrArg (fun result => (world.settle ArrayAnswer.entries result).1) hRun
    · exact absurd (hPasses _) hRefused
  | _ => cases hReads

theorem sameView_iff (hLaws : codec.Laws) (h : Shelved codec world.dht world.array world.owner slots elements)
    {after : ArrayWorld RecordKey KeyPair} {slots' : List Nat}
    (hAfter : Shelved codec after.dht after.array after.owner slots' remaining) :
    SameView codec world after ↔ remaining = elements := by
  constructor
  · intro hSame
    have hReads : ArrayOp.getAll.Reads := trivial
    have hEntries := hSame .getAll hReads
    rw [Shelved.read hLaws h hReads, Shelved.read hLaws hAfter hReads] at hEntries
    exact ArrayAnswer.entries.inj (Except.ok.inj hEntries)
  · rintro rfl op hReads
    rw [Shelved.read hLaws h hReads, Shelved.read hLaws hAfter hReads]
    cases op <;> first | rfl | cases hReads

/-- A step that ends in an error. -/
theorem Shelved.sameView_iff_spares (hLaws : codec.Laws)
    (h : Shelved codec world.dht world.array world.owner slots elements) {event : ArrayEvent} {e : ProtocolError}
    (hError : (world.step codec event).1 = .error e) :
    SameView codec world (world.next codec event) ↔ Spares codec world event := by
  have hElements := (ArrayWorld.elements_of_shelved hLaws h).2
  unfold Spares
  rw [hElements]
  rcases array_step hLaws h event with hKept | hFailed
  · obtain ⟨_, _, hAfter, hAnswer⟩ := hKept.shelved
    rw [hError] at hAnswer
    obtain ⟨hSame, hSpares⟩ := ListArray.step_error hAnswer (world.under event)
    exact (sameView_iff hLaws h hAfter).trans (iff_of_true (congrArg ListArray.elements hSame) hSpares)
  · obtain ⟨_, _, hAfter, hRemains⟩ := hFailed.shelved
    exact (sameView_iff hLaws h hAfter).trans hRemains.eq_iff

theorem shelved_final (hLaws : codec.Laws) (h : Shelved codec world.dht world.array world.owner slots elements)
    (events : List ArrayEvent) :
    let reached := Runs.final (ArrayWorld.next codec) world events
    ∃ slots elements, Shelved codec reached.dht reached.array reached.owner slots elements := by
  induction events generalizing world slots elements with
  | nil => exact ⟨_, _, h⟩
  | cons event rest ih =>
    rcases array_step hLaws h event with hKept | hFailed
    · obtain ⟨_, _, hAfter, -⟩ := hKept.shelved
      exact ih hAfter
    · obtain ⟨_, _, hAfter, -⟩ := hFailed.shelved
      exact ih hAfter

end Faults

/-- Whatever calls the network has failed before and fails now, a reader sees the same after an
operation that failed exactly when the elements that it had emptied were empty. -/
theorem failed_change_unseen_iff {RecordKey KeyPair : Type} [DecidableEq RecordKey] [DecidableEq KeyPair]
    {codec : Codec RecordKey} (hLaws : codec.Laws) (capacity : Nat) (owner : Option KeyPair)
    (dht : Dht RecordKey KeyPair) :
    Settles
      (fun created after => ∀ events event e,
        let reached := Runs.final (ArrayWorld.next codec) ⟨after, created.1, created.2⟩ events
        (reached.step codec event).1 = .error e →
          (SameView codec reached (reached.next codec event) ↔ Spares codec reached event))
      (fun e after => capacity = 65535 ∧ e = .dhtError "capacity overflow (max 65534)" ∨
        after.failures = dht.failures + 1)
      (DHTShortArray.create codec capacity owner) dht := by
  refine (DHTShortArray.create_shelved_settles capacity owner).mono ?_ fun _ _ h => h
  rintro ⟨array, keypair⟩ after ⟨-, -, hShelved⟩ events event e reached hError
  let created : ArrayWorld RecordKey KeyPair := ⟨after, array, keypair⟩
  have hCreated : Shelved codec created.dht created.array created.owner [] [] := hShelved
  obtain ⟨_, _, hReached⟩ := shelved_final hLaws hCreated events
  exact hReached.sameView_iff_spares hLaws hError

namespace Reference

theorem reference_failed_change_unseen_iff :
    Settles
      (fun created after => ∀ events event e,
        let reached := Runs.final (ArrayWorld.next codec) ⟨after, created.1, created.2⟩ events
        (reached.step codec event).1 = .error e →
          (SameView codec reached (reached.next codec event) ↔ Spares codec reached event))
      (fun e after => 2 = 65535 ∧ e = .dhtError "capacity overflow (max 65534)" ∨ after.failures = 1)
      (DHTShortArray.create codec 2 none) (network [] [("array", 7)]) :=
  failed_change_unseen_iff codec_laws 2 none (network [] [("array", 7)])

/-- An array of two slots that has just been created, or one that nobody can use. -/
def newArray : ArrayWorld String Nat :=
  match (DHTShortArray.create codec 2 none).run (network [] [("array", 7)]) with
  | .ok (array, owner) dht => ⟨dht, array, owner⟩
  | .error _ dht => ⟨dht, ⟨"", none, 0⟩, 0⟩

/-- The array with one element. -/
def oneElement : ArrayWorld String Nat := newArray.next codec (calmly (.add [1]))

/-- The third call of the removal, which writes the head, times out. -/
def cutOffRemoval : ArrayEvent := ⟨.remove 0, [none, none, some "timeout"]⟩

/-- The removal fails, and the element has become empty. -/
theorem cut_off_removal_shows :
    (oneElement.step codec cutOffRemoval).1 = .error (.dhtError "write head: timeout") ∧
    (oneElement.step codec (calmly .getAll)).1 = .ok (.entries [[1]]) ∧
    ((oneElement.next codec cutOffRemoval).step codec (calmly .getAll)).1 = .ok (.entries [[]]) ∧
    ¬SameView codec oneElement (oneElement.next codec cutOffRemoval) := by
  have hBefore : (oneElement.step codec (calmly .getAll)).1 = .ok (.entries [[1]]) := by decide +kernel
  have hAfter : ((oneElement.next codec cutOffRemoval).step codec (calmly .getAll)).1 = .ok (.entries [[]]) := by
    decide +kernel
  refine ⟨by decide +kernel, hBefore, hAfter, fun hSame => ?_⟩
  have hGetAll : ArrayOp.getAll.Reads := trivial
  have hEntries := hSame .getAll hGetAll
  rw [hBefore, hAfter] at hEntries
  cases hEntries

end Reference

end Rekindle.Protocol
