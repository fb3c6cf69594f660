import Rekindle.Library.Runs
import Rekindle.Protocol.LogAppends

/-! # Logs over whole runs

An application appends to a log, reads it and opens it again. Each call has its own surroundings:
how the calls to the network end, and the keys of new records. The log is compared with the list of
the values appended so far.
-/
namespace Rekindle.Protocol
set_option autoImplicit false

open Fallible Pages

inductive LogOp where
  | append (data : Bytes)
  | get (pos : UInt64)
  | len
  | tail (count : UInt32)
  /-- Another process opens the log, for writing or for reading. -/
  | reopen (writable : Bool)

inductive Answer where
  | position (pos : Nat)
  | entry (entry : Option Bytes)
  | length (length : Nat)
  | entries (entries : List Bytes)
  | opened
  deriving DecidableEq

abbrev Reply := Except ProtocolError Answer

/-! ## The list -/

structure ListLog where
  values : List Bytes
  writable : Bool

def ListLog.step (list : ListLog) : LogOp → Reply × ListLog
  | .append data =>
    if list.writable then (.ok (.position list.values.length), { list with values := list.values ++ [data] })
    else (.error (.dhtError "cannot append to read-only log"), list)
  | .get pos => (.ok (.entry list.values[pos.toNat]?), list)
  | .len => (.ok (.length list.values.length), list)
  | .tail count => (.ok (.entries (list.values.drop (list.values.length - count.toNat))), list)
  | .reopen writable => (.ok .opened, { list with writable := writable })

def ListLog.replies : ListLog → List LogOp → List Reply
  | _, [] => []
  | list, op :: rest => (list.step op).1 :: (list.step op).2.replies rest

/-! ## The log -/

/-- An operation with its surroundings. -/
structure Event (RecordKey KeyPair : Type) where
  op : LogOp
  faults : List (Option String)
  supply : List (RecordKey × KeyPair)

/-- A log in use: the key pair that its creation returned is kept for later, and the values that
were appended are noted. -/
structure World (RecordKey KeyPair : Type) where
  dht : Dht RecordKey KeyPair
  log : DHTLog RecordKey KeyPair
  owner : KeyPair
  appended : List Bytes

variable {RecordKey KeyPair : Type}

def World.under (world : World RecordKey KeyPair) (event : Event RecordKey KeyPair) :
    Dht RecordKey KeyPair :=
  { world.dht with faults := event.faults, supply := event.supply }

def World.list (world : World RecordKey KeyPair) : ListLog := ⟨world.appended, world.log.ownerKeypair.isSome⟩

/-- The world after a call that returned or failed. -/
def World.settle {α : Type} (world : World RecordKey KeyPair) (answer : α → Answer)
    (next : α → World RecordKey KeyPair) :
    EStateM.Result ProtocolError (Dht RecordKey KeyPair) α → Reply × World RecordKey KeyPair
  | .ok a dht => (.ok (answer a), { next a with dht := dht })
  | .error e dht => (.error e, { world with dht := dht })

def Dht.closed (dht : Dht RecordKey KeyPair) : Dht RecordKey KeyPair := { dht with opened := fun _ => none }

/-- The world after another process has tried to open the log: where it cannot, the old one goes on. -/
def World.takeOver (world : World RecordKey KeyPair) (dht : Dht RecordKey KeyPair) :
    EStateM.Result ProtocolError (Dht RecordKey KeyPair) (DHTLog RecordKey KeyPair) →
      Reply × World RecordKey KeyPair
  | .ok log opened => (.ok .opened, { world with dht := opened, log := log })
  | .error e failed => (.error e, { world with dht := { dht with failures := failed.failures } })

variable [DecidableEq RecordKey] [DecidableEq KeyPair] (codec : Codec RecordKey)

def World.step (world : World RecordKey KeyPair) (event : Event RecordKey KeyPair) :
    Reply × World RecordKey KeyPair :=
  match event.op with
  | .append data => world.settle (fun pos => .position pos.toNat)
      (fun _ => { world with appended := world.appended ++ [data] })
      ((world.log.append codec data).run (world.under event))
  | .get pos => world.settle .entry (fun _ => world) ((world.log.get codec pos).run (world.under event))
  | .len => world.settle (fun total => .length total.toNat) (fun _ => world)
      ((world.log.len codec).run (world.under event))
  | .tail count => world.settle .entries (fun _ => world)
      ((world.log.tail codec count).run (world.under event))
  | .reopen writable => world.takeOver (world.under event)
      ((DHTLog.openAs codec (codec.keyToString world.log.spineKey) (if writable then some world.owner else none)).run
        (world.under event).closed)

def World.next (world : World RecordKey KeyPair) (event : Event RecordKey KeyPair) :
    World RecordKey KeyPair := (world.step codec event).2

def World.replies : World RecordKey KeyPair → List (Event RecordKey KeyPair) → List Reply
  | _, [] => []
  | world, event :: rest => (world.step codec event).1 :: (world.next codec event).replies rest

/-- The network fails no call of the run. -/
def Calm (world : World RecordKey KeyPair) (events : List (Event RecordKey KeyPair)) : Prop :=
  Runs.Along (World.next codec)
    (fun world event => (world.next codec event).dht.failures = world.dht.failures) world events

/-- Whatever is done next, as long as the network fails no call, is answered as the list answers. -/
def ActsAs (world : World RecordKey KeyPair) (list : ListLog) : Prop :=
  ∀ events, Calm codec world events → world.replies codec events = list.replies (events.map Event.op)

/-! ## One step -/

/-- The log holds the values that were appended, and its handle works. -/
def Intact (world : World RecordKey KeyPair) : Prop :=
  (∃ keys, Stored codec world.dht.records world.log.spineKey world.owner keys world.appended.length
    world.appended) ∧
  world.dht.opened world.log.spineKey = some world.log.ownerKeypair ∧
  ∀ writer, world.log.ownerKeypair = some writer → writer = world.owner

/-- The spine as it is stored. -/
def World.spine? (world : World RecordKey KeyPair) : Option LogSpine := do
  let record ← world.dht.records world.log.spineKey
  let bytes ← record.values 0
  (codec.spineFromSlice bytes).toOption

/-- The spine with one more entry is short enough for a value. -/
def World.SpineFits (world : World RecordKey KeyPair) : Prop := ∀ spine, world.spine? codec = some spine →
  (codec.spineToVec { spine with totalCount := spine.totalCount + 1 }).length ≤ maxValueSize

/-- The append writes the entry and the head of a segment that was there, and then the write of the
spine fails. -/
def CutOff (world : World RecordKey KeyPair) (event : Event RecordKey KeyPair) : Prop :=
  ∃ data, event.op = .append data ∧ world.log.ownerKeypair ≠ none ∧ world.appended.length % 255 ≠ 0 ∧
    data.length ≤ maxValueSize ∧ (world.under event).Passes 6 ∧
    (event.faults[6]?.join ≠ none ∨ ¬world.SpineFits codec)

/-- A step that keeps the log intact: the list answers it, or the network has failed it. -/
structure Kept (world : World RecordKey KeyPair) (op : LogOp)
    (after : Reply × World RecordKey KeyPair) : Prop where
  failures : after.2.dht.failures = world.dht.failures
  intact : Intact codec after.2
  answer : (after.1, after.2.list) = world.list.step op

structure Failed (world : World RecordKey KeyPair) (event : Event RecordKey KeyPair)
    (after : Reply × World RecordKey KeyPair) : Prop where
  failures : after.2.dht.failures = world.dht.failures + 1
  appended : after.2.appended = world.appended
  intact : ¬CutOff codec world event → Intact codec after.2

section Steps

variable {codec} {world : World RecordKey KeyPair} {event : Event RecordKey KeyPair}

omit [DecidableEq RecordKey] [DecidableEq KeyPair] in
theorem Intact.opened_ne (h : Intact codec world) : world.dht.opened world.log.spineKey ≠ none := by
  rw [h.2.1]
  exact Option.some_ne_none _

omit [DecidableEq RecordKey] [DecidableEq KeyPair] in
/-- Reading moves the network's state only. -/
theorem Intact.of_read (h : Intact codec world) {dht : Dht RecordKey KeyPair}
    (hRead : Read world.log.spineKey world.dht dht) : Intact codec { world with dht := dht } := by
  obtain ⟨⟨keys, hStored⟩, hOpen, hWriter⟩ := h
  refine ⟨⟨keys, ?_⟩, hRead.2.trans hOpen, hWriter⟩
  change Stored codec dht.records _ _ _ _ _
  rw [hRead.1]
  exact hStored

omit [DecidableEq RecordKey] [DecidableEq KeyPair] in
theorem settle_read {α : Type} (hIntact : Intact codec world) {x : DhtM RecordKey KeyPair α} {value : α}
    (h : Settles (fun a after => a = value ∧ after.failures = world.dht.failures ∧
        Read world.log.spineKey world.dht after)
      (fun _ after => after.failures = world.dht.failures + 1 ∧ Read world.log.spineKey world.dht after)
      x (world.under event)) (answer : α → Answer)
    (hAnswer : (.ok (answer value), world.list) = world.list.step event.op) :
    Kept codec world event.op (world.settle answer (fun _ => world) (x.run (world.under event))) ∨
      Failed codec world event (world.settle answer (fun _ => world) (x.run (world.under event))) := by
  rcases h.cases with ⟨_, after, hRun, rfl, hFailures, hRead⟩ | ⟨e, after, hRun, hFailures, hRead⟩
  · rw [hRun]
    exact .inl ⟨hFailures, hIntact.of_read hRead, hAnswer⟩
  · rw [hRun]
    exact .inr ⟨hFailures, rfl, fun _ => hIntact.of_read hRead⟩

omit [DecidableEq RecordKey] [DecidableEq KeyPair] in
theorem spine?_of_stored (hLaws : codec.Laws) {keys : List RecordKey} {count : Nat} {values : List Bytes}
    (h : Stored codec world.dht.records world.log.spineKey world.owner keys count values) :
    world.spine? codec = some (spineOf codec keys count) := by
  obtain ⟨record, hRecord, -, -, hSpine⟩ := h.spine
  simp [World.spine?, hRecord, hSpine, hLaws.spine, Except.toOption]

omit [DecidableEq RecordKey] [DecidableEq KeyPair] in
theorem spineFits_iff (hLaws : codec.Laws) {keys : List RecordKey} {count : Nat} {values : List Bytes}
    (h : Stored codec world.dht.records world.log.spineKey world.owner keys count values) :
    world.SpineFits codec ↔ (codec.spineToVec (spineOf codec keys (count + 1))).length ≤ maxValueSize := by
  rw [← spineOf_succ]
  constructor
  · intro hFits
    exact hFits _ (spine?_of_stored hLaws h)
  · intro hFits spine hSpine
    obtain rfl := Option.some.inj ((spine?_of_stored hLaws h).symm.trans hSpine)
    exact hFits

theorem step_append (hLaws : codec.Laws) (hIntact : Intact codec world) (data : Bytes)
    (faults : List (Option String)) (supply : List (RecordKey × KeyPair)) :
    Kept codec world (.append data) (world.step codec ⟨.append data, faults, supply⟩) ∨
      Failed codec world ⟨.append data, faults, supply⟩ (world.step codec ⟨.append data, faults, supply⟩) := by
  obtain ⟨⟨keys, hStored⟩, hOpen, hWriter⟩ := id hIntact
  let event : Event RecordKey KeyPair := ⟨.append data, faults, supply⟩
  change Kept codec world (.append data) (world.settle _ _ ((world.log.append codec data).run (world.under event))) ∨
    Failed codec world event (world.settle _ _ ((world.log.append codec data).run (world.under event)))
  have hUnder : Stored codec (world.under event).records world.log.spineKey world.owner keys
    world.appended.length world.appended := hStored
  cases hKeypair : world.log.ownerKeypair with
  | none =>
    have hRun : (world.log.append codec data).run (world.under event) =
        .error (.dhtError "cannot append to read-only log") (world.under event) := by
      rw [DHTLog.append, hKeypair]
      rfl
    rw [hRun]
    refine .inl ⟨rfl, hIntact.of_read ⟨rfl, rfl⟩, ?_⟩
    simp [World.settle, World.list, ListLog.step, hKeypair]
  | some writer =>
    obtain rfl := hWriter writer hKeypair
    have hOpen' : (world.under event).opened world.log.spineKey = some (some world.owner) := by
      rw [← hKeypair]
      exact hOpen
    have hLength : world.appended.length + 1 = (world.appended ++ [data]).length := by
      rw [List.length_append, List.length_singleton]
    have hReplied : (.ok (.position (UInt64.ofNat world.appended.length).toNat),
        (⟨world.appended ++ [data], world.log.ownerKeypair.isSome⟩ : ListLog)) =
          world.list.step (.append data) := by
      simp [World.list, ListLog.step, hKeypair, hStored.toNat_count]
    by_cases hFull : world.appended.length % 255 = 0
    · rcases (append_opening_settles hLaws hKeypair hUnder hOpen' hFull data).cases with
        ⟨_, after, hRun, rfl, hFailures, hSame, key, -, -, hNext⟩ | ⟨e, after, hRun, -, hFailures, hSame, hNext⟩
      · rw [hLength] at hNext
        rw [hRun]
        exact .inl ⟨hFailures, ⟨⟨_, hNext⟩, hSame.trans hOpen, hWriter⟩, hReplied⟩
      · rw [hRun]
        exact .inr ⟨hFailures, rfl, fun _ => ⟨⟨_, hNext⟩, hSame.trans hOpen, hWriter⟩⟩
    · obtain ⟨last, hLast, hStarted, hRoom, -⟩ := hStored.spans.of_room hFull
      rcases (append_within_settles hLaws hKeypair hUnder hOpen' hFull hLast hStarted hRoom data).cases with
        ⟨_, after, hRun, rfl, hFailures, hSame, hNext⟩ | ⟨e, after, hRun, hFailures, hSame, hNext⟩
      · rw [hLength] at hNext
        rw [hRun]
        exact .inl ⟨hFailures, ⟨⟨_, hNext⟩, hSame.trans hOpen, hWriter⟩, hReplied⟩
      · rw [hRun]
        refine .inr ⟨hFailures, rfl, fun hWhole => ?_⟩
        rcases hNext with ⟨-, hNext⟩ | ⟨hSix, hSize, hSpine, -⟩
        · exact ⟨⟨_, hNext⟩, hSame.trans hOpen, hWriter⟩
        · refine absurd ⟨data, rfl, by simp [hKeypair], hFull, hSize, hSix, ?_⟩ hWhole
          rw [or_iff_not_imp_right, not_not, spineFits_iff hLaws hStored]
          intro hFits hSeventh
          refine hSpine hFits fun i hi => ?_
          by_cases hLast : i = 6
          · rw [hLast]
            exact hSeventh
          · exact hSix i (by omega)

/-- A new process opens the log, or the old one goes on. -/
theorem step_reopen (hLaws : codec.Laws) (hIntact : Intact codec world) (writable : Bool)
    (faults : List (Option String)) (supply : List (RecordKey × KeyPair)) :
    Kept codec world (.reopen writable) (world.step codec ⟨.reopen writable, faults, supply⟩) ∨
      Failed codec world ⟨.reopen writable, faults, supply⟩
        (world.step codec ⟨.reopen writable, faults, supply⟩) := by
  obtain ⟨⟨keys, hStored⟩, hOpen, hWriter⟩ := id hIntact
  let event : Event RecordKey KeyPair := ⟨.reopen writable, faults, supply⟩
  have hKnown : (world.under event).closed.records world.log.spineKey ≠ none :=
    hStored.known List.mem_cons_self
  change Kept codec world (.reopen writable) (world.takeOver _ (EStateM.run _ (world.under event).closed)) ∨
    Failed codec world event (world.takeOver _ (EStateM.run _ (world.under event).closed))
  rcases (openAs_settles hLaws (if writable then some world.owner else none) hKnown).cases with
    ⟨_, after, hRun, rfl, hFailures, hRecords, hOpened⟩ | ⟨e, after, hRun, hFailures⟩
  · left
    rw [hRun]
    refine ⟨hFailures, ⟨⟨keys, ?_⟩, hOpened, ?_⟩, ?_⟩
    · change Stored codec after.records _ _ _ _ _
      rw [hRecords]
      exact hStored
    · intro writer hSome
      cases writable with
      | true => exact (Option.some.inj hSome).symm
      | false => cases hSome
    · cases writable <;> rfl
  · right
    rw [hRun]
    exact ⟨hFailures, rfl, fun _ => hIntact.of_read ⟨rfl, rfl⟩⟩

theorem step_settles (hLaws : codec.Laws) (hIntact : Intact codec world)
    (event : Event RecordKey KeyPair) :
    Kept codec world event.op (world.step codec event) ∨ Failed codec world event (world.step codec event) := by
  obtain ⟨keys, hStored⟩ := hIntact.1
  have hStored' : Stored codec (world.under event).records world.log.spineKey world.owner keys
    world.appended.length world.appended := hStored
  have hOpen : (world.under event).opened world.log.spineKey ≠ none := hIntact.opened_ne
  obtain ⟨op, faults, supply⟩ := event
  cases op with
  | append data => exact step_append hLaws hIntact data faults supply
  | reopen writable => exact step_reopen hLaws hIntact writable faults supply
  | get pos =>
    refine settle_read hIntact (get_settles hLaws hStored' hOpen pos) .entry ?_
    rw [List.take_length]
    rfl
  | len =>
    refine settle_read hIntact (len_settles hLaws hStored' hOpen) _ ?_
    rw [hStored.toNat_count]
    rfl
  | tail count =>
    refine settle_read hIntact (tail_settles hLaws hStored' hOpen count) .entries ?_
    rw [List.take_length]
    rfl

/-- An intact log is the list of what was appended to it. -/
theorem Intact.actsAs (hLaws : codec.Laws) (hIntact : Intact codec world) : ActsAs codec world world.list := by
  intro events hCalm
  induction events generalizing world with
  | nil => rfl
  | cons event rest ih =>
    obtain ⟨hSame, hRest⟩ := hCalm
    rcases step_settles hLaws hIntact event with hKept | hFailed
    · rw [World.replies, List.map_cons, ListLog.replies, ← hKept.answer]
      exact congrArg _ (ih hKept.intact hRest)
    · have hMore : (world.next codec event).dht.failures = world.dht.failures + 1 := hFailed.failures
      omega

/-- A created log: the network has chosen its key and its owner, and no other record is touched. -/
theorem create_fresh_settles (hLaws : codec.Laws) (dht : Dht RecordKey KeyPair) :
    Settles (fun created after => ∃ key owner, dht.supply.head? = some (key, owner) ∧
        created = (⟨key, some owner⟩, owner) ∧ dht.records key = none ∧
        (∀ other, other ≠ key → after.records other = dht.records other) ∧
        after.opened key = some (some owner) ∧ Stored codec after.records key owner [] 0 [])
      (fun _ after => (dht.Passes 3 → (codec.spineToVec (spineOf codec [] 0)).length ≤ maxValueSize →
        dht.Exhausted) ∧ after.failures = dht.failures + 1) (DHTLog.create codec) dht := by
  refine (createDhtRecord_settles _ 1 none).bind ?_ ?_
  · rintro ⟨key, keypair⟩ _ ⟨hFault, ⟨fresh, hHead, hOwner⟩, hFree, rfl⟩
    obtain rfl : keypair = fresh := hOwner
    have hFirst : Passed 1 dht (dht.next.created key keypair 1) := passed_one hFault rfl rfl
    refine (reach_settles _).bind ?_ ?_
    · rintro _ _ ⟨hSecret, rfl⟩
      have hSecond : Passed 2 dht (dht.next.created key keypair 1).next := hFirst.next hSecret rfl rfl
      have hRecord : (dht.next.created key keypair 1).next.records key = some ⟨keypair, 1, fun _ => none⟩ :=
        Function.update_self ..
      have hOpen : (dht.next.created key keypair 1).next.opened key = some (some keypair) :=
        Function.update_self ..
      refine (setDhtValue_settles _ hRecord hOpen (by decide : 0 < 1)).bind ?_ ?_
      · rintro _ _ ⟨-, hFits, rfl⟩
        have hEmpty : Segments codec (dht.next.created key keypair 1).next.records keypair [] [] := by
          intro i hi
          cases hi
        refine settles_pure ⟨key, keypair, hHead, rfl, hFree, fun other hOther => ?_, hOpen,
          Stored.write_spine hRecord rfl rfl hEmpty (spans_zero (by decide)) (List.nodup_singleton _) hLaws hFits⟩
        exact (Function.update_of_ne hOther ..).trans (Function.update_of_ne hOther ..)
      · rintro _ _ ⟨hRefused, rfl⟩
        exact ⟨fun hPasses hFits => absurd (hSecond.fault?_eq_none hPasses (by decide)) (hRefused hFits), rfl⟩
    · rintro _ _ ⟨hSecret, rfl⟩
      exact ⟨fun hPasses _ => absurd (hFirst.fault?_eq_none hPasses (by decide)) hSecret, rfl⟩
  · rintro _ _ ⟨hRefused, rfl⟩
    exact ⟨fun hPasses _ => hRefused (hPasses.fault?_eq_none (by decide)), rfl⟩

theorem create_settles (hLaws : codec.Laws) (dht : Dht RecordKey KeyPair) :
    Settles (fun created after => Intact codec ⟨after, created.1, created.2, []⟩ ∧
        created.1.ownerKeypair.isSome)
      (fun _ after => after.failures = dht.failures + 1) (DHTLog.create codec) dht := by
  refine (create_fresh_settles hLaws dht).mono ?_ fun _ _ h => h.2
  rintro _ after ⟨key, owner, -, rfl, -, -, hOpened, hStored⟩
  exact ⟨⟨⟨[], hStored⟩, hOpened, fun _ h => (Option.some.inj h).symm⟩, rfl⟩

end Steps

end Rekindle.Protocol
