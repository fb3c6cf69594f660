import Rekindle.Protocol.AppendStages
import Rekindle.Protocol.LogFaults

/-! # Concurrent appends

Any number of tasks on any number of devices append to one log, and the network makes their calls in
any order. A device whose value for a subkey is outdated sets nothing there: it is told the newer value,
and the call returns as if it had been set.
-/
namespace Rekindle.Protocol
set_option autoImplicit false

open Fallible Interleaving Runs

structure AppendTask (Device RecordKey KeyPair : Type) where
  device : Device
  data : Bytes
  stage : AppendStage RecordKey KeyPair

/-- What the devices have in common. -/
structure Network (Device RecordKey KeyPair : Type) where
  dht : Dht RecordKey KeyPair
  /-- The network holds a newer value of the subkey than the device has seen. -/
  newer : Device → RecordKey → Nat → Bool
  /-- The appends that have returned, with their positions. -/
  returned : List (Bytes × UInt64)

section Model

variable {Device RecordKey KeyPair : Type} [DecidableEq Device] [DecidableEq RecordKey] [DecidableEq KeyPair]
variable (codec : Codec RecordKey) (log : DHTLog RecordKey KeyPair)

def Network.see (network : Network Device RecordKey KeyPair) (device : Device) (key : RecordKey) (subkey : Nat) :
    Device → RecordKey → Nat → Bool :=
  fun other otherKey otherSubkey =>
    if other = device ∧ otherKey = key ∧ otherSubkey = subkey then false else network.newer other otherKey otherSubkey

def Network.publish (network : Network Device RecordKey KeyPair) (device : Device) (key : RecordKey) (subkey : Nat) :
    Device → RecordKey → Nat → Bool :=
  fun other otherKey otherSubkey =>
    if otherKey = key ∧ otherSubkey = subkey then other ≠ device else network.newer other otherKey otherSubkey

namespace AppendTask

def start (request : Device × Bytes) : AppendTask Device RecordKey KeyPair := ⟨request.1, request.2, .readSpine⟩

/-- The next call sets a value, and the network holds a newer one. -/
def declined (task : AppendTask Device RecordKey KeyPair) (network : Network Device RecordKey KeyPair) : Bool :=
  match task.stage.write? codec log task.data with
  | some (write, _) => network.newer task.device write.key write.subkey
  | none => false

/-- The next call, when it does not set what it should. -/
def pass (task : AppendTask Device RecordKey KeyPair) :
    DhtM RecordKey KeyPair (AppendStage RecordKey KeyPair ⊕ UInt64) :=
  match task.stage.write? codec log task.data with
  | some (write, next) => do
    reach (labelled write.label)
    pure next
  | none => task.stage.advance codec log task.data

/-- What the devices have not seen after the next call. -/
def seen (task : AppendTask Device RecordKey KeyPair) (network : Network Device RecordKey KeyPair) :
    Device → RecordKey → Nat → Bool :=
  match task.stage.write? codec log task.data with
  | some (write, _) =>
    if network.newer task.device write.key write.subkey then network.see task.device write.key write.subkey
    else network.publish task.device write.key write.subkey
  | none =>
    match task.stage.read? log with
    | some (key, subkey) => network.see task.device key subkey
    | none => network.newer

def advance (task : AppendTask Device RecordKey KeyPair) :
    EStateM ProtocolError (Network Device RecordKey KeyPair) (AppendTask Device RecordKey KeyPair ⊕ UInt64) :=
  fun network =>
    let call := if task.declined codec log network then task.pass codec log
      else task.stage.advance codec log task.data
    match call.run network.dht with
    | .error e dht => .error e { network with dht := dht }
    | .ok (.inl stage) dht => .ok (.inl { task with stage := stage })
      { network with dht := dht, newer := task.seen codec log network }
    | .ok (.inr position) dht => .ok (.inr position)
      { dht := dht, newer := task.seen codec log network, returned := network.returned ++ [(task.data, position)] }

theorem run_advance {task : AppendTask Device RecordKey KeyPair} {network : Network Device RecordKey KeyPair}
    (hAccepted : task.declined codec log network = false) : (task.advance codec log).run network =
      match (task.stage.advance codec log task.data).run network.dht with
      | .error e dht => .error e { network with dht := dht }
      | .ok (.inl stage) dht => .ok (.inl { task with stage := stage })
        { network with dht := dht, newer := task.seen codec log network }
      | .ok (.inr position) dht => .ok (.inr position)
        { dht := dht, newer := task.seen codec log network, returned := network.returned ++ [(task.data, position)] } := by
  simp only [advance, hAccepted, EStateM.run, Bool.false_eq_true, if_false]

end AppendTask

abbrev AppendPool (Device RecordKey KeyPair : Type) :=
  Pool (Network Device RecordKey KeyPair) (AppendTask Device RecordKey KeyPair)

def takeTurn (pool : AppendPool Device RecordKey KeyPair) (turn : Turn (Device × Bytes)) :
    AppendPool Device RecordKey KeyPair :=
  take AppendTask.start (AppendTask.advance codec log) pool turn

/-- The appends that have returned are in the log, each at a position of its own. -/
def LosesNothing (network : Network Device RecordKey KeyPair) : Prop :=
  (∀ data position, (data, position) ∈ network.returned →
    ∃ after, (log.get codec position).run { network.dht with faults := [] } = .ok (some data) after) ∧
  (network.returned.map Prod.snd).Nodup

/-- An append begins when no other one is under way, no value is set where the network holds a newer
one, and no entry is left behind that the spine does not count. -/
def Orderly (pool : AppendPool Device RecordKey KeyPair) (turn : Turn (Device × Bytes)) : Prop :=
  ∀ task, turnOf pool turn = some task →
    (task.stage = .readSpine → ∀ other ∈ pool.running, other.stage = .readSpine) ∧
    task.declined codec log pool.shared = false ∧ ¬task.stage.Tears codec log pool.shared.dht

end Model

/-! ## One append at a time -/

section Serial

variable {Device RecordKey KeyPair : Type} {codec : Codec RecordKey} {log : DHTLog RecordKey KeyPair} {owner : KeyPair}

/-- The values in the order of their positions. -/
def numbered (values : List Bytes) : List (Bytes × UInt64) :=
  values.mapIdx fun position data => (data, UInt64.ofNat position)

theorem numbered_concat (values : List Bytes) (data : Bytes) :
    numbered (values ++ [data]) = numbered values ++ [(data, UInt64.ofNat values.length)] := List.mapIdx_concat

theorem mem_numbered {values : List Bytes} {data : Bytes} {position : UInt64}
    (h : (data, position) ∈ numbered values) : ∃ i, values[i]? = some data ∧ position = UInt64.ofNat i := by
  obtain ⟨i, hi, hEntry⟩ := List.mem_mapIdx.mp h
  cases hEntry
  exact ⟨i, List.getElem?_eq_getElem hi, rfl⟩

theorem nodup_positions {values : List Bytes} (hSmall : values.length < UInt64.size) :
    ((numbered values).map Prod.snd).Nodup := by
  have hPositions : (numbered values).map Prod.snd = (List.range values.length).map UInt64.ofNat :=
    List.ext_getElem (by simp [numbered]) (by simp [numbered])
  rw [hPositions]
  refine List.nodup_range.map_on fun i hi j hj hSame => ?_
  rw [List.mem_range] at hi hj
  rw [← UInt64.toNat_ofNat_of_lt' (hi.trans hSmall), hSame, UInt64.toNat_ofNat_of_lt' (hj.trans hSmall)]

/-- No append has begun, but perhaps the one at the index. -/
def OthersWait (running : List (AppendTask Device RecordKey KeyPair)) (index : Nat) : Prop :=
  ∀ other task, other ≠ index → running[other]? = some task → task.stage = .readSpine

/-- The values of the appends that have returned are in the log, and at most one append is under way. -/
def Serial (codec : Codec RecordKey) (log : DHTLog RecordKey KeyPair) (owner : KeyPair)
    (pool : AppendPool Device RecordKey KeyPair) : Prop :=
  ∃ values, pool.shared.returned = numbered values ∧
    ((∀ task ∈ pool.running, task.stage = .readSpine) ∧ Untouched codec log owner pool.shared.dht values ∨
      ∃ index task, pool.running[index]? = some task ∧ OthersWait pool.running index ∧
        AtStage codec log.spineKey owner pool.shared.dht values task.data task.stage)

theorem OthersWait.of_forall {running : List (AppendTask Device RecordKey KeyPair)}
    (h : ∀ task ∈ running, task.stage = .readSpine) (index : Nat) : OthersWait running index :=
  fun _ _ _ hTask => h _ (List.mem_of_getElem? hTask)

theorem OthersWait.erase {running : List (AppendTask Device RecordKey KeyPair)} {index : Nat}
    (h : OthersWait running index) : ∀ task ∈ running.eraseIdx index, task.stage = .readSpine := by
  intro task hTask
  obtain ⟨other, hOther, hTask⟩ := List.mem_eraseIdx_iff_getElem?.mp hTask
  exact h other task hOther hTask

theorem OthersWait.set {running : List (AppendTask Device RecordKey KeyPair)} {index : Nat}
    (h : OthersWait running index) (next : AppendTask Device RecordKey KeyPair) :
    OthersWait (running.set index next) index := by
  intro other task hOther hTask
  rw [List.getElem?_set_ne hOther.symm] at hTask
  exact h other task hOther hTask

theorem OthersWait.start {running : List (AppendTask Device RecordKey KeyPair)} {index : Nat}
    (h : OthersWait running index) (request : Device × Bytes) :
    OthersWait (running ++ [AppendTask.start request]) index := by
  intro other task hOther hTask
  by_cases hOld : other < running.length
  · rw [List.getElem?_append_left hOld] at hTask
    exact h other task hOther hTask
  · rw [List.getElem?_append_right (Nat.le_of_not_lt hOld)] at hTask
    rw [List.mem_singleton.mp (List.mem_of_getElem? hTask)]
    rfl

/-- What an append that has the turn knows. -/
theorem Serial.turn {pool : AppendPool Device RecordKey KeyPair} {values : List Bytes} {index : Nat}
    {task : AppendTask Device RecordKey KeyPair} (hTask : pool.running[index]? = some task)
    (hAlone : task.stage = .readSpine → ∀ other ∈ pool.running, other.stage = .readSpine)
    (h : (∀ task ∈ pool.running, task.stage = .readSpine) ∧ Untouched codec log owner pool.shared.dht values ∨
      ∃ index task, pool.running[index]? = some task ∧ OthersWait pool.running index ∧
        AtStage codec log.spineKey owner pool.shared.dht values task.data task.stage) :
    OthersWait pool.running index ∧
      AtStage codec log.spineKey owner pool.shared.dht values task.data task.stage := by
  rcases h with ⟨hWait, hUntouched⟩ | ⟨busy, former, hFormer, hWait, hStage⟩
  · rw [hWait task (List.mem_of_getElem? hTask)]
    exact ⟨.of_forall hWait index, hUntouched⟩
  · by_cases hSame : index = busy
    · subst hSame
      obtain rfl := Option.some.inj (hFormer.symm.trans hTask)
      exact ⟨hWait, hStage⟩
    · -- the append begins, so the one that was under way has not begun either
      have hBegins := hWait index task hSame hTask
      have hAll := hAlone hBegins
      rw [hAll former (List.mem_of_getElem? hFormer)] at hStage
      rw [hBegins]
      exact ⟨.of_forall hAll index, hStage⟩

variable [DecidableEq Device] [DecidableEq RecordKey] [DecidableEq KeyPair]

theorem Serial.advance (hLaws : codec.Laws) (hWriter : log.ownerKeypair = some owner)
    {pool : AppendPool Device RecordKey KeyPair} (h : Serial codec log owner pool) {index : Nat}
    (hOrderly : Orderly codec log pool (.advance index)) :
    Serial codec log owner (takeTurn codec log pool (.advance index)) := by
  cases hTask : pool.running[index]? with
  | none =>
    simp only [takeTurn, take, hTask]
    exact h
  | some task =>
    obtain ⟨values, hReturned, hState⟩ := h
    obtain ⟨hAlone, hAccepted, hWhole⟩ := hOrderly task hTask
    obtain ⟨hWait, hStage⟩ := Serial.turn hTask hAlone hState
    have hIndex : index < pool.running.length := (List.getElem?_eq_some_iff.mp hTask).1
    have hCall := advance_settles hLaws hWriter hStage hWhole
    unfold Settles at hCall
    cases hRun : (task.stage.advance codec log task.data).run pool.shared.dht with
    | error e dht =>
      rw [hRun] at hCall
      simp only [takeTurn, take, hTask, AppendTask.run_advance codec log hAccepted, hRun]
      exact ⟨values, hReturned, .inl ⟨hWait.erase, hCall⟩⟩
    | ok next dht =>
      rw [hRun] at hCall
      cases next with
      | inl stage =>
        simp only [takeTurn, take, hTask, AppendTask.run_advance codec log hAccepted, hRun]
        refine ⟨values, hReturned, .inr ⟨index, { task with stage := stage }, ?_, hWait.set _, hCall⟩⟩
        exact List.getElem?_set_self hIndex
      | inr position =>
        obtain ⟨rfl, hUntouched⟩ := hCall
        simp only [takeTurn, take, hTask, AppendTask.run_advance codec log hAccepted, hRun]
        refine ⟨values ++ [task.data], ?_, .inl ⟨hWait.erase, hUntouched⟩⟩
        rw [numbered_concat, ← hReturned]
        rfl

theorem Serial.takeTurn (hLaws : codec.Laws) (hWriter : log.ownerKeypair = some owner)
    {pool : AppendPool Device RecordKey KeyPair} (h : Serial codec log owner pool) {turn : Turn (Device × Bytes)}
    (hOrderly : Orderly codec log pool turn) : Serial codec log owner (takeTurn codec log pool turn) := by
  cases turn with
  | advance index => exact h.advance hLaws hWriter hOrderly
  | start request =>
    obtain ⟨values, hReturned, ⟨hWait, hUntouched⟩ | ⟨index, task, hTask, hWait, hStage⟩⟩ := h
    · refine ⟨values, hReturned, .inl ⟨?_, hUntouched⟩⟩
      intro task hTask
      rcases List.mem_append.mp hTask with hOld | hNew
      · exact hWait task hOld
      · rw [List.mem_singleton.mp hNew]
        rfl
    · refine ⟨values, hReturned, .inr ⟨index, task, ?_, hWait.start request, hStage⟩⟩
      exact List.getElem?_append_left (List.getElem?_eq_some_iff.mp hTask).1 ▸ hTask

omit [DecidableEq Device] [DecidableEq RecordKey] [DecidableEq KeyPair] in
/-- What the log holds of the appends that have returned. -/
theorem Serial.stored {pool : AppendPool Device RecordKey KeyPair} (h : Serial codec log owner pool) :
    ∃ values keys held, pool.shared.returned = numbered values ∧ held.take values.length = values ∧
      pool.shared.dht.opened log.spineKey = some (some owner) ∧
      Stored codec pool.shared.dht.records log.spineKey owner keys values.length held := by
  obtain ⟨values, hReturned, ⟨-, hUntouched⟩ | ⟨-, task, -, -, hStage⟩⟩ := h
  · obtain ⟨keys, hUnderway⟩ := hUntouched
    exact ⟨values, keys, values, hReturned, List.take_length, hUnderway.opened, hUnderway.stored⟩
  · obtain ⟨hOpened, keys, held, hHeld, hStored⟩ := hStage.stored
    exact ⟨values, keys, held, hReturned, hHeld, hOpened, hStored⟩

omit [DecidableEq Device] [DecidableEq KeyPair] in
theorem Serial.losesNothing (hLaws : codec.Laws) {pool : AppendPool Device RecordKey KeyPair}
    (h : Serial codec log owner pool) : LosesNothing codec log pool.shared := by
  obtain ⟨values, keys, held, hReturned, hHeld, hOpened, hStored⟩ := h.stored
  have hSmall : values.length < UInt64.size := by
    have hCount := hStored.count_lt
    omega
  rw [LosesNothing, hReturned]
  constructor
  · intro data position hEntry
    obtain ⟨i, hData, rfl⟩ := mem_numbered hEntry
    have hIndex : i < values.length := (List.getElem?_eq_some_iff.mp hData).1
    have hNat : (UInt64.ofNat i).toNat = i := UInt64.toNat_ofNat_of_lt' (hIndex.trans hSmall)
    have hOpen : ({ pool.shared.dht with faults := [] } : Dht RecordKey KeyPair).opened log.spineKey ≠ none := by
      simp [hOpened]
    have hRead := get_settles hLaws (show Stored codec ({ pool.shared.dht with faults := [] } :
      Dht RecordKey KeyPair).records log.spineKey owner keys values.length held from hStored) hOpen (UInt64.ofNat i)
    have hQuiet := staysQuiet_get codec log (UInt64.ofNat i) { pool.shared.dht with faults := [] } rfl
    unfold Settles at hRead
    cases hRun : (log.get codec (UInt64.ofNat i)).run { pool.shared.dht with faults := [] } with
    | error e after =>
      rw [hRun] at hRead hQuiet
      have hMore : after.failures = pool.shared.dht.failures + 1 := hRead.1
      have hSame : after.failures = pool.shared.dht.failures := hQuiet.2
      omega
    | ok entry after =>
      rw [hRun] at hRead
      obtain ⟨rfl, -⟩ := hRead
      exact ⟨after, by rw [hNat, hHeld, hData]⟩
  · exact nodup_positions hSmall

variable (Device) in
/-- A log that has just been created, and nobody has appended to. -/
def AppendPool.created (dht : Dht RecordKey KeyPair) : AppendPool Device RecordKey KeyPair :=
  ⟨⟨dht, fun _ _ _ => false, []⟩, []⟩

variable (Device) in
/-- In every state that an orderly run reaches, the appends that have returned have lost nothing. -/
def LosesNothingInOrder (codec : Codec RecordKey) (log : DHTLog RecordKey KeyPair) (dht : Dht RecordKey KeyPair) : Prop :=
  ∀ turns, Along (takeTurn codec log) (Orderly codec log) (AppendPool.created Device dht) turns →
    LosesNothing codec log (final (takeTurn codec log) (AppendPool.created Device dht) turns).shared

end Serial

namespace Reference

/-- A log just created, in a network with keys for two segments. -/
def emptyLog : AppendPool Nat String Nat :=
  .created Nat { createdLog.dht with supply := [("first", 8), ("second", 9)] }

/-- Two appends of one device: the second begins after the first has read the spine. -/
def overlapping : List (Turn (Nat × Bytes)) :=
  [.start (0, [1]), .start (0, [2]), .advance 0, .advance 1] ++ List.replicate 12 (.advance 0)

end Reference

end Rekindle.Protocol
