import Rekindle.Library.Fallible
import Mathlib.Logic.Function.Basic

/-! # The DHT behind the logs

Records of the distributed hash table, as the log and the short array call it. How each call ends
and which keys new records get is the network's choice and an input. A call that fails leaves the
records as they were.
-/
namespace Rekindle.Protocol
set_option autoImplicit false

open Fallible

abbrev Bytes := List UInt8

inductive ProtocolError where
  | dhtError (text : String)
  | deserialization (text : String)
  /-- An operation that panics instead of returning. -/
  | panicked
  deriving DecidableEq

structure Record (KeyPair : Type) where
  owner : KeyPair
  subkeys : Nat
  values : Nat → Option Bytes

structure Dht (RecordKey KeyPair : Type) where
  records : RecordKey → Option (Record KeyPair)
  /-- The records this node has open, each with the writer it was opened with. -/
  opened : RecordKey → Option (Option KeyPair)
  /-- The keys and owners of the next records. -/
  supply : List (RecordKey × KeyPair)
  /-- How the next calls end: a text is an error. -/
  faults : List (Option String)
  /-- How many calls the network has failed. -/
  failures : Nat

abbrev DhtM (RecordKey KeyPair : Type) := EStateM ProtocolError (Dht RecordKey KeyPair)

/-- `ValueData::MAX_LEN`. -/
def maxValueSize : Nat := 32768

variable {RecordKey KeyPair : Type}

def Dht.next (dht : Dht RecordKey KeyPair) : Dht RecordKey KeyPair := { dht with faults := dht.faults.tail }

def Dht.failed (dht : Dht RecordKey KeyPair) : Dht RecordKey KeyPair := { dht with failures := dht.failures + 1 }

/-- The key of the next record. -/
def Dht.offer? (dht : Dht RecordKey KeyPair) : Option RecordKey := dht.supply.head?.map Prod.fst

/-- The error the next call ends with, if any. -/
def Dht.fault? (dht : Dht RecordKey KeyPair) : Option String := dht.faults.head?.join

/-- The network's part of a call: it goes through, or it ends with an error. -/
def reach (error : String → ProtocolError) : DhtM RecordKey KeyPair Unit := fun dht =>
  match dht.fault? with
  | none => .ok () dht.next
  | some e => .error (error e) dht.next.failed

/-- The network refuses the call. -/
def lose {α : Type} (error : String → ProtocolError) : DhtM RecordKey KeyPair α :=
  fun dht => .error (error "") dht.failed

/-- The caller asks for what it may not have. -/
def misuse {α : Type} (error : String → ProtocolError) : DhtM RecordKey KeyPair α := throw (error "")

def labelled (label e : String) : ProtocolError := .dhtError (label ++ ": " ++ e)

theorem reach_settles {dht : Dht RecordKey KeyPair} (error : String → ProtocolError) :
    Settles (fun _ after => dht.fault? = none ∧ after = dht.next)
      (fun _ after => dht.fault? ≠ none ∧ after = dht.next.failed) (reach error) dht := by
  unfold Settles reach EStateM.run
  cases h : dht.fault? <;> simp [h]

/-- A call goes through to its effect, or it fails and changes nothing. -/
theorem settles_call {α : Type} {dht : Dht RecordKey KeyPair} {error : String → ProtocolError}
    {body : DhtM RecordKey KeyPair α} {P : α → Dht RecordKey KeyPair → Prop} {Q : Prop}
    (hFault : dht.fault? ≠ none → Q)
    (hBody : dht.fault? = none → Settles P (fun _ after => Q ∧ after = dht.next.failed) body dht.next) :
    Settles P (fun _ after => Q ∧ after = dht.next.failed) (do reach error; body) dht := by
  refine (reach_settles error).bind ?_ ?_
  · rintro _ _ ⟨hNone, rfl⟩
    exact hBody hNone
  · rintro _ _ ⟨hSome, rfl⟩
    exact ⟨hFault hSome, rfl⟩

def Record.write (record : Record KeyPair) (subkey : Nat) (data : Bytes) : Record KeyPair :=
  { record with values := Function.update record.values subkey (some data) }

theorem Record.write_values_self (record : Record KeyPair) (subkey : Nat) (data : Bytes) :
    (record.write subkey data).values subkey = some data := Function.update_self ..

theorem Record.write_values_of_ne (record : Record KeyPair) {subkey other : Nat} (data : Bytes)
    (h : other ≠ subkey) : (record.write subkey data).values other = record.values other :=
  Function.update_of_ne h ..

theorem Record.write_eq_self (record : Record KeyPair) {subkey : Nat} {data : Bytes}
    (h : record.values subkey = some data) : record.write subkey data = record := by
  rw [Record.write, ← h, Function.update_eq_self]

variable [DecidableEq RecordKey] [DecidableEq KeyPair]

def Dht.withRecord (dht : Dht RecordKey KeyPair) (key : RecordKey) (record : Record KeyPair) :
    Dht RecordKey KeyPair :=
  { dht with records := Function.update dht.records key (some record) }

def Dht.withOpened (dht : Dht RecordKey KeyPair) (key : RecordKey) (writer : Option KeyPair) :
    Dht RecordKey KeyPair :=
  { dht with opened := Function.update dht.opened key (some writer) }

/-- A key that is taken is no key for a new record. A new record is open for its owner. -/
def createDhtRecord (label : String) (subkeys : Nat) (owner : Option KeyPair) :
    DhtM RecordKey KeyPair (RecordKey × KeyPair) := do
  reach (labelled label)
  let dht ← get
  match dht.supply with
  | [] => lose (labelled label)
  | (key, fresh) :: supply =>
    if (dht.records key).isSome then lose (labelled label) else
      let keypair := owner.getD fresh
      set ({ dht with supply := supply }.withRecord key ⟨keypair, subkeys, fun _ => none⟩
        |>.withOpened key (some keypair))
      pure (key, keypair)

def openDhtRecord (label : String) (key : RecordKey) (writer : Option KeyPair) :
    DhtM RecordKey KeyPair Unit := do
  reach (labelled label)
  let dht ← get
  if (dht.records key).isSome then set (dht.withOpened key writer) else misuse (labelled label)

def getDhtValue (label : String) (key : RecordKey) (subkey : Nat) :
    DhtM RecordKey KeyPair (Option Bytes) := do
  reach (labelled label)
  let dht ← get
  match dht.opened key, dht.records key with
  | some _, some record =>
    if subkey < record.subkeys then pure (record.values subkey) else misuse (labelled label)
  | _, _ => misuse (labelled label)

def setDhtValue (label : String) (key : RecordKey) (subkey : Nat) (data : Bytes) :
    DhtM RecordKey KeyPair Unit := do
  reach (labelled label)
  if maxValueSize < data.length then lose (labelled label) else
    let dht ← get
    match dht.opened key, dht.records key with
    | some (some writer), some record =>
      if writer = record.owner ∧ subkey < record.subkeys then
        set (dht.withRecord key (record.write subkey data))
      else misuse (labelled label)
    | _, _ => misuse (labelled label)

/-! ## What a call does -/

section Calls

variable {dht : Dht RecordKey KeyPair}

/-- What the creation of a record with a fresh key leaves. -/
def Dht.created (dht : Dht RecordKey KeyPair) (key : RecordKey) (owner : KeyPair) (subkeys : Nat) :
    Dht RecordKey KeyPair :=
  { dht with supply := dht.supply.tail }.withRecord key ⟨owner, subkeys, fun _ => none⟩
    |>.withOpened key (some owner)

/-- The network has no key for a new record that is not taken. -/
def Dht.Exhausted (dht : Dht RecordKey KeyPair) : Prop := ∀ key, dht.offer? = some key → dht.records key ≠ none

omit [DecidableEq KeyPair] in
theorem createDhtRecord_settles (label : String) (subkeys : Nat) (owner : Option KeyPair) :
    Settles (fun (created : RecordKey × KeyPair) after => dht.fault? = none ∧
        (∃ fresh, dht.supply.head? = some (created.1, fresh) ∧ created.2 = owner.getD fresh) ∧
        dht.records created.1 = none ∧ after = dht.next.created created.1 created.2 subkeys)
      (fun _ after => (dht.fault? = none → dht.Exhausted) ∧ after = dht.next.failed)
      (createDhtRecord label subkeys owner) dht := by
  refine settles_call (fun hFault hNone => absurd hNone hFault) fun hFault => Settles.bind_get ?_
  cases hSupply : dht.next.supply with
  | nil =>
    refine ⟨fun _ key hOffer => ?_, rfl⟩
    have hSupply : dht.supply = [] := hSupply
    simp [Dht.offer?, hSupply] at hOffer
  | cons head supply =>
    obtain ⟨key, fresh⟩ := head
    have hHead : dht.supply.head? = some (key, fresh) := by
      have hSupply : dht.supply = (key, fresh) :: supply := hSupply
      simp [hSupply]
    have hOffer : dht.offer? = some key := congrArg (Option.map Prod.fst) hHead
    by_cases hTaken : (dht.next.records key).isSome
    · simp only [hTaken, if_true]
      refine ⟨fun _ other hOther => ?_, rfl⟩
      obtain rfl := Option.some.inj (hOffer.symm.trans hOther)
      exact Option.isSome_iff_ne_none.mp hTaken
    · simp only [hTaken]
      refine ⟨hFault, ⟨fresh, hHead, rfl⟩, Option.not_isSome_iff_eq_none.mp hTaken, ?_⟩
      simp [Dht.created, hSupply]

omit [DecidableEq KeyPair] in
theorem openDhtRecord_settles (label : String) {key : RecordKey} (writer : Option KeyPair)
    (hKnown : dht.records key ≠ none) :
    Settles (fun _ after => dht.fault? = none ∧ after = dht.next.withOpened key writer)
      (fun _ after => dht.fault? ≠ none ∧ after = dht.next.failed) (openDhtRecord label key writer) dht := by
  refine settles_call id fun hFault => Settles.bind_get ?_
  have hSome : (dht.next.records key).isSome := Option.isSome_iff_ne_none.mpr hKnown
  rw [if_pos hSome]
  exact settles_set ⟨hFault, rfl⟩

omit [DecidableEq RecordKey] [DecidableEq KeyPair] in
theorem getDhtValue_settles (label : String) {key : RecordKey} {subkey : Nat} {record : Record KeyPair}
    (hRecord : dht.records key = some record) (hOpen : dht.opened key ≠ none)
    (hSubkey : subkey < record.subkeys) :
    Settles (fun value after => dht.fault? = none ∧ value = record.values subkey ∧ after = dht.next)
      (fun _ after => dht.fault? ≠ none ∧ after = dht.next.failed) (getDhtValue label key subkey) dht := by
  refine settles_call id fun hFault => Settles.bind_get ?_
  obtain ⟨writer, hWriter⟩ := Option.ne_none_iff_exists'.mp hOpen
  have hWriter : dht.next.opened key = some writer := hWriter
  have hRecord : dht.next.records key = some record := hRecord
  simp only [hWriter, hRecord, if_pos hSubkey]
  exact settles_pure ⟨hFault, rfl, rfl⟩

theorem setDhtValue_settles (label : String) {key : RecordKey} {subkey : Nat} {record : Record KeyPair}
    {data : Bytes} (hRecord : dht.records key = some record)
    (hOpen : dht.opened key = some (some record.owner)) (hSubkey : subkey < record.subkeys) :
    Settles (fun _ after => dht.fault? = none ∧ data.length ≤ maxValueSize ∧
        after = dht.next.withRecord key (record.write subkey data))
      (fun _ after => (data.length ≤ maxValueSize → dht.fault? ≠ none) ∧ after = dht.next.failed)
      (setDhtValue label key subkey data) dht := by
  refine settles_call (fun h _ => h) fun hFault => ?_
  by_cases hSize : maxValueSize < data.length
  · rw [if_pos hSize]
    exact ⟨fun h => absurd hSize (Nat.not_lt.mpr h), rfl⟩
  · rw [if_neg hSize]
    refine Settles.bind_get ?_
    have hOpen : dht.next.opened key = some (some record.owner) := hOpen
    have hRecord : dht.next.records key = some record := hRecord
    simp only [hOpen, hRecord, hSubkey, and_self, if_true]
    exact settles_set ⟨hFault, Nat.le_of_not_lt hSize, rfl⟩

/-- A record that is open for somebody else than its owner is not written. -/
theorem setDhtValue_foreign_settles (label : String) {key : RecordKey} {subkey : Nat} {record : Record KeyPair}
    {data : Bytes} {writer : KeyPair} (hRecord : dht.records key = some record)
    (hOpen : dht.opened key = some (some writer)) (hForeign : writer ≠ record.owner) :
    Settles (fun _ _ => False) (fun _ _ => True) (setDhtValue label key subkey data) dht := by
  refine (reach_settles _).bind ?_ fun _ _ _ => trivial
  rintro _ _ ⟨-, rfl⟩
  by_cases hSize : maxValueSize < data.length
  · rw [if_pos hSize]
    trivial
  · rw [if_neg hSize]
    refine Settles.bind_get ?_
    have hOpen : dht.next.opened key = some (some writer) := hOpen
    have hRecord : dht.next.records key = some record := hRecord
    simp only [hOpen, hRecord, hForeign, false_and, if_false]
    trivial

omit [DecidableEq RecordKey] [DecidableEq KeyPair] in
theorem reach_eq_ok {error : String → ProtocolError} {after : Dht RecordKey KeyPair} {unit : Unit}
    (h : (reach error).run dht = .ok unit after) : dht.fault? = none ∧ after = dht.next := by
  have hSettles := @reach_settles _ _ dht error
  rw [Settles, h] at hSettles
  exact hSettles

omit [DecidableEq RecordKey] [DecidableEq KeyPair] in
/-- A value that is read is that of the record. -/
theorem getDhtValue_eq_ok {label : String} {key : RecordKey} {subkey : Nat} {value : Option Bytes}
    {after : Dht RecordKey KeyPair} (h : (getDhtValue label key subkey).run dht = .ok value after) :
    dht.fault? = none ∧ after = dht.next ∧ ∃ record, dht.records key = some record ∧ value = record.values subkey := by
  obtain ⟨_, reached, hReach, hRead⟩ := run_bind_eq_ok_iff.mp h
  obtain ⟨hFault, rfl⟩ := reach_eq_ok hReach
  obtain ⟨_, _, hGet, hRead⟩ := run_bind_eq_ok_iff.mp hRead
  cases hGet
  split at hRead
  · next record _ hRecord =>
    split at hRead
    · cases hRead
      exact ⟨hFault, rfl, record, hRecord, rfl⟩
    · cases hRead
  · cases hRead

/-- A value that is set is in the record. -/
theorem setDhtValue_eq_ok {label : String} {key : RecordKey} {subkey : Nat} {data : Bytes}
    {after : Dht RecordKey KeyPair} {unit : Unit} (h : (setDhtValue label key subkey data).run dht = .ok unit after) :
    dht.fault? = none ∧ ∃ record, dht.records key = some record ∧ dht.opened key ≠ none ∧
      subkey < record.subkeys ∧ after = dht.next.withRecord key (record.write subkey data) := by
  obtain ⟨_, reached, hReach, hWrite⟩ := run_bind_eq_ok_iff.mp h
  obtain ⟨hFault, rfl⟩ := reach_eq_ok hReach
  split at hWrite
  · cases hWrite
  · obtain ⟨_, _, hGet, hWrite⟩ := run_bind_eq_ok_iff.mp hWrite
    cases hGet
    split at hWrite
    · next writer record hOpened hRecord =>
      split at hWrite
      · next hOwner =>
        cases hWrite
        have hOpen : dht.opened key = some (some writer) := hOpened
        exact ⟨hFault, record, hRecord, by rw [hOpen]; exact Option.some_ne_none _, hOwner.2, rfl⟩
      · cases hWrite
    · cases hWrite

end Calls

/-! ## Successive calls -/

/-- The next `count` calls go through. -/
def Dht.Passes (dht : Dht RecordKey KeyPair) (count : Nat) : Prop := ∀ i < count, dht.faults[i]?.join = none

/-- `count` calls have gone through. -/
structure Passed (count : Nat) (before after : Dht RecordKey KeyPair) : Prop where
  passes : before.Passes count
  faults : after.faults = before.faults.drop count
  failures : after.failures = before.failures

omit [DecidableEq RecordKey] [DecidableEq KeyPair]

theorem passed_one {before after : Dht RecordKey KeyPair} (hFault : before.fault? = none)
    (hFaults : after.faults = before.faults.tail) (hFailures : after.failures = before.failures) :
    Passed 1 before after := by
  refine ⟨fun i hi => ?_, by rw [hFaults, List.drop_one], hFailures⟩
  obtain rfl : i = 0 := by omega
  rwa [Dht.fault?, List.head?_eq_getElem?] at hFault

theorem Passed.extend {m n : Nat} {before after : Dht RecordKey KeyPair} (h : Passed m before after)
    (hPasses : after.Passes n) : before.Passes (m + n) := by
  intro i hi
  by_cases hFirst : i < m
  · exact h.passes i hFirst
  · have hLater := hPasses (i - m) (by omega)
    rwa [h.faults, List.getElem?_drop, Nat.add_sub_cancel' (Nat.le_of_not_lt hFirst)] at hLater

theorem Passed.trans {m n : Nat} {a b c : Dht RecordKey KeyPair} (hFirst : Passed m a b) (hSecond : Passed n b c) :
    Passed (m + n) a c where
  passes := hFirst.extend hSecond.passes
  faults := by rw [hSecond.faults, hFirst.faults, List.drop_drop]
  failures := hSecond.failures.trans hFirst.failures

theorem Passed.next {n : Nat} {a b c : Dht RecordKey KeyPair} (h : Passed n a b) (hFault : b.fault? = none)
    (hFaults : c.faults = b.faults.tail) (hFailures : c.failures = b.failures) : Passed (n + 1) a c :=
  h.trans (passed_one hFault hFaults hFailures)

theorem Passed.rest {m n : Nat} {before after : Dht RecordKey KeyPair} (h : Passed m before after)
    (hPasses : before.Passes (m + n)) : after.Passes n := by
  intro i hi
  rw [h.faults, List.getElem?_drop]
  exact hPasses (m + i) (by omega)

theorem Dht.Passes.fault?_eq_none {n : Nat} {dht : Dht RecordKey KeyPair} (h : dht.Passes n) (hn : 0 < n) :
    dht.fault? = none := by
  rw [Dht.fault?, List.head?_eq_getElem?]
  exact h 0 hn

theorem Passed.fault?_eq_none {m n : Nat} {before after : Dht RecordKey KeyPair} (h : Passed m before after)
    (hPasses : before.Passes n) (hm : m < n) : after.fault? = none := by
  rw [Dht.fault?, List.head?_eq_getElem?, h.faults, List.getElem?_drop]
  exact hPasses m hm

/-- The records that there were are as they were. -/
def Extends (before after : Dht RecordKey KeyPair) : Prop := ∀ key, before.records key ≠ none →
  after.records key = before.records key ∧ after.opened key = before.opened key

theorem Extends.trans {a b c : Dht RecordKey KeyPair} (hFirst : Extends a b) (hSecond : Extends b c) :
    Extends a c := by
  intro key hKnown
  obtain ⟨hRecord, hOpened⟩ := hFirst key hKnown
  obtain ⟨hRecord', hOpened'⟩ := hSecond key (by rwa [hRecord])
  exact ⟨hRecord'.trans hRecord, hOpened'.trans hOpened⟩

end Rekindle.Protocol
