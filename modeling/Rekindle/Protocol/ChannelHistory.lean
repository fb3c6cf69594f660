import Rekindle.Library.Loops
import Rekindle.Protocol.Reference

/-! # Channel messages in linked records

Each record holds a batch of messages and a link to the record of the batch before it. A batch that is full is
left as it is, and a new record becomes the latest; the history is read backwards along the links.
-/
namespace Rekindle.Protocol
set_option autoImplicit false

open Fallible

structure ChannelMessage where
  senderKey : String
  body : String
  /-- In milliseconds. -/
  timestamp : UInt64
  nonce : String
  replyTo : Option String
  deriving DecidableEq

structure MessageBatch where
  /-- The record of the batch before. -/
  prevRecordKey : Option String
  /-- Newest last. -/
  messages : List ChannelMessage
  deriving DecidableEq

def maxMessagesPerBatch : Nat := 50

/-- How batches are written as bytes. -/
structure BatchFormat where
  toVec : MessageBatch → Bytes
  fromSlice : Bytes → Except String MessageBatch

def BatchFormat.ReadsBack (format : BatchFormat) : Prop := ∀ batch, format.fromSlice (format.toVec batch) = .ok batch

variable {KeyPair : Type} [DecidableEq KeyPair] (format : BatchFormat)

def emptyBatch : MessageBatch := { prevRecordKey := none, messages := [] }

def createBatch (prevKey : Option String) : DhtM String KeyPair String := do
  let (key, _) ← createDhtRecord "create_dht_record" 1 none
  setDhtValue "set_dht_value" key 0 (format.toVec { prevRecordKey := prevKey, messages := [] })
  pure key

/-- What the value of a record is read as. -/
def decodeBatch (value : Option Bytes) : Except ProtocolError MessageBatch :=
  match value with
  | some data => (format.fromSlice data).mapError .deserialization
  | none => .ok emptyBatch

def readBatch (key : String) : DhtM String KeyPair MessageBatch := do
  let value ← getDhtValue "get_dht_value" key 0
  ofExcept (decodeBatch format value)

/-- The key of a new batch, when one had to be created. -/
def appendMessage (batchKey : String) (message : ChannelMessage) : DhtM String KeyPair (Option String) := do
  let batch ← readBatch format batchKey
  if maxMessagesPerBatch ≤ batch.messages.length then do
    let newKey ← createBatch format (some batchKey)
    setDhtValue "set_dht_value" newKey 0
      (format.toVec { prevRecordKey := some batchKey, messages := [message] })
    pure (some newKey)
  else do
    setDhtValue "set_dht_value" batchKey 0
      (format.toVec { batch with messages := batch.messages ++ [message] })
    pure none

/-- Pushes messages until there are as many as the limit. -/
def pushUntil (limit : Nat) : List ChannelMessage → List ChannelMessage → List ChannelMessage
  | all, [] => all
  | all, message :: rest =>
    if limit ≤ (all ++ [message]).length then all ++ [message] else pushUntil limit (all ++ [message]) rest

/-- The variables of the loop of `read_history`. -/
structure HistoryCursor where
  allMessages : List ChannelMessage
  currentKey : Option String

def historyRound (limit : Nat) (cursor : HistoryCursor) :
    DhtM String KeyPair (HistoryCursor ⊕ List ChannelMessage) :=
  match cursor.currentKey with
  | none => pure (.inr cursor.allMessages)
  | some key =>
    if limit ≤ cursor.allMessages.length then pure (.inr cursor.allMessages)
    else do
      let batch ← readBatch format key
      pure (.inl { allMessages := pushUntil limit cursor.allMessages batch.messages.reverse
                   currentKey := batch.prevRecordKey })

abbrev HistoryResult (KeyPair : Type) := EStateM.Result ProtocolError (Dht String KeyPair) (List ChannelMessage)

/-- One round of the loop with the records it reads. -/
def readHistory (limit : Nat) :
    HistoryCursor × Dht String KeyPair → (HistoryCursor × Dht String KeyPair) ⊕ HistoryResult KeyPair :=
  Loops.stateful (historyRound format limit)

def historyStart (latestBatchKey : String) : HistoryCursor := { allMessages := [], currentKey := some latestBatchKey }

/-- Appends one message after the other, each to the batch that the one before has left as the latest. -/
def appendAll : String → List ChannelMessage → DhtM String KeyPair String
  | key, [] => pure key
  | key, message :: rest => do
    let newKey ← appendMessage format key message
    appendAll (newKey.getD key) rest

section
variable {limit : Nat} {all rest : List ChannelMessage}

theorem pushUntil_eq (h : all.length < limit) : pushUntil limit all rest = all ++ rest.take (limit - all.length) := by
  induction rest generalizing all with
  | nil => rw [pushUntil, List.take_nil, List.append_nil]
  | cons message rest ih =>
    have hMore : limit - all.length = (limit - (all ++ [message]).length) + 1 := by
      rw [List.length_append, List.length_singleton]
      omega
    rw [pushUntil, hMore, List.take_succ_cons, List.append_cons all message (rest.take _)]
    split
    · next hFull => rw [Nat.sub_eq_zero_of_le hFull, List.take_zero, List.append_nil]
    · next hOpen => exact ih (Nat.lt_of_not_le hOpen)

end

/-! ## What records hold -/

variable {dht after : Dht String KeyPair}

/-- The record is open and holds the batch. -/
structure Holds (format : BatchFormat) (dht : Dht String KeyPair) (key : String) (batch : MessageBatch) : Prop where
  opened : dht.opened key ≠ none
  record : ∃ record, dht.records key = some record ∧ 0 < record.subkeys ∧ decodeBatch format (record.values 0) = .ok batch

/-- The records of the key and of those before it, without the latest, and the messages in them. -/
inductive Chain (format : BatchFormat) (dht : Dht String KeyPair) : String → List String → List ChannelMessage → Prop
  | first {key : String} {messages : List ChannelMessage} (hHolds : Holds format dht key ⟨none, messages⟩) :
    Chain format dht key [] messages
  | link {key prev : String} {keys : List String} {earlier messages : List ChannelMessage}
    (hHolds : Holds format dht key ⟨some prev, messages⟩) (hNew : key ∉ prev :: keys)
    (hRest : Chain format dht prev keys earlier) : Chain format dht key (prev :: keys) (earlier ++ messages)

section
variable {format} {key : String} {keys : List String} {batch : MessageBatch} {messages : List ChannelMessage}

omit [DecidableEq KeyPair]

theorem Holds.congr (h : Holds format dht key batch) (hRecords : after.records key = dht.records key)
    (hOpened : after.opened key = dht.opened key) : Holds format after key batch := by
  obtain ⟨record, hRecord, hRest⟩ := h.record
  exact ⟨by rw [hOpened]; exact h.opened, record, hRecords.trans hRecord, hRest⟩

theorem Chain.holds (h : Chain format dht key keys messages) : ∃ batch, Holds format dht key batch := by
  cases h with
  | first hHolds => exact ⟨_, hHolds⟩
  | link hHolds _ _ => exact ⟨_, hHolds⟩

theorem Chain.known (h : Chain format dht key keys messages) : ∀ other ∈ key :: keys, dht.records other ≠ none := by
  induction h with
  | first hHolds =>
    obtain ⟨record, hRecord, -⟩ := hHolds.record
    simp [hRecord]
  | link hHolds _ _ ih =>
    obtain ⟨record, hRecord, -⟩ := hHolds.record
    rw [List.forall_mem_cons]
    exact ⟨by simp [hRecord], ih⟩

/-- Records that are left alone keep their chain. -/
theorem Chain.congr (h : Chain format dht key keys messages)
    (hSame : ∀ other ∈ key :: keys, after.records other = dht.records other ∧ after.opened other = dht.opened other) :
    Chain format after key keys messages := by
  induction h with
  | first hHolds =>
    obtain ⟨hRecords, hOpened⟩ := hSame _ List.mem_cons_self
    exact .first (hHolds.congr hRecords hOpened)
  | link hHolds hNew _ ih =>
    obtain ⟨hRecords, hOpened⟩ := hSame _ List.mem_cons_self
    exact .link (hHolds.congr hRecords hOpened) hNew (ih fun other hOther => hSame other (List.mem_cons_of_mem _ hOther))

variable [DecidableEq KeyPair]

theorem Holds.readBatch_eq_ok {read : MessageBatch} (h : Holds format dht key batch)
    (hRun : (readBatch format key).run dht = .ok read after) : read = batch ∧ after = dht.next := by
  obtain ⟨value, reached, hGet, hDecode⟩ := run_bind_eq_ok_iff.mp hRun
  obtain ⟨-, rfl, record, hRecord, rfl⟩ := getDhtValue_eq_ok hGet
  obtain ⟨held, hHeld, -, hBatch⟩ := h.record
  cases hRecord.symm.trans hHeld
  rw [hBatch] at hDecode
  cases hDecode
  exact ⟨rfl, rfl⟩

/-- A batch that is written is what the record holds; the other records are left alone. -/
theorem holds_of_write (hFormat : format.ReadsBack) {label : String} {unit : Unit}
    (h : (setDhtValue label key 0 (format.toVec batch)).run dht = .ok unit after) :
    Holds format after key batch ∧ after.opened = dht.opened ∧
      ∀ other ≠ key, after.records other = dht.records other := by
  obtain ⟨-, record, hRecord, hOpened, hSubkey, rfl⟩ := setDhtValue_eq_ok h
  refine ⟨⟨hOpened, record.write 0 (format.toVec batch), Function.update_self .., hSubkey, ?_⟩, rfl, fun other hOther => ?_⟩
  · rw [Record.write_values_self, decodeBatch, hFormat]
    rfl
  · exact Function.update_of_ne hOther ..

theorem createBatch_eq_ok (hFormat : format.ReadsBack) {prevKey : Option String} {newKey : String}
    (h : (createBatch format prevKey).run dht = .ok newKey after) :
    dht.records newKey = none ∧ Holds format after newKey ⟨prevKey, []⟩ ∧
      ∀ other ≠ newKey, after.records other = dht.records other ∧ after.opened other = dht.opened other := by
  obtain ⟨⟨key, keypair⟩, created, hCreate, hSet⟩ := run_bind_eq_ok_iff.mp h
  obtain ⟨_, written, hSet, hReturn⟩ := run_bind_eq_ok_iff.mp hSet
  cases hReturn
  have hCreated : Settles _ _ _ dht := createDhtRecord_settles "create_dht_record" 1 none
  rw [Settles, hCreate] at hCreated
  obtain ⟨-, -, hFree, rfl⟩ := hCreated
  obtain ⟨hHolds, hOpened, hOthers⟩ := holds_of_write hFormat hSet
  refine ⟨hFree, hHolds, fun other hOther => ⟨?_, ?_⟩⟩
  · rw [hOthers other hOther]
    exact Function.update_of_ne hOther ..
  · rw [hOpened]
    exact Function.update_of_ne hOther ..

/-- An append makes the chain one message longer. -/
theorem appendMessage_chain (hFormat : format.ReadsBack) (h : Chain format dht key keys messages)
    {message : ChannelMessage} {newKey : Option String}
    (hRun : (appendMessage format key message).run dht = .ok newKey after) :
    ∃ earlier, Chain format after (newKey.getD key) earlier (messages ++ [message]) := by
  obtain ⟨read, reached, hRead, hWrite⟩ := run_bind_eq_ok_iff.mp hRun
  split at hWrite
  · obtain ⟨created, linked, hCreate, hWrite⟩ := run_bind_eq_ok_iff.mp hWrite
    obtain ⟨_, written, hSet, hReturn⟩ := run_bind_eq_ok_iff.mp hWrite
    cases hReturn
    obtain ⟨_, hHeld⟩ := h.holds
    obtain ⟨-, rfl⟩ := hHeld.readBatch_eq_ok hRead
    obtain ⟨hFree, -, hOthers⟩ := createBatch_eq_ok hFormat hCreate
    obtain ⟨hHolds, hOpened, hWritten⟩ := holds_of_write hFormat hSet
    have hNew : created ∉ key :: keys := fun hMem => h.known created hMem hFree
    refine ⟨key :: keys, .link hHolds hNew (h.congr fun other hOther => ?_)⟩
    have hDiffers : other ≠ created := fun hSame => hNew (hSame ▸ hOther)
    rw [hWritten other hDiffers, hOpened]
    exact hOthers other hDiffers
  · obtain ⟨_, written, hSet, hReturn⟩ := run_bind_eq_ok_iff.mp hWrite
    cases hReturn
    obtain ⟨hHolds, hOpened, hWritten⟩ := holds_of_write hFormat hSet
    cases h with
    | first hHeld =>
      obtain ⟨rfl, rfl⟩ := hHeld.readBatch_eq_ok hRead
      exact ⟨[], .first hHolds⟩
    | link hHeld hNew hRest =>
      obtain ⟨rfl, rfl⟩ := hHeld.readBatch_eq_ok hRead
      have hKept : Chain format after _ _ _ := hRest.congr fun other hOther =>
        ⟨hWritten other fun hSame => hNew (hSame ▸ hOther), congrFun hOpened other⟩
      have hLonger := Chain.link hHolds hNew hKept
      rw [← List.append_assoc] at hLonger
      exact ⟨_, hLonger⟩

theorem appendAll_chain (hFormat : format.ReadsBack) {later : List ChannelMessage} {latest : String}
    (h : Chain format dht key keys messages) (hRun : (appendAll format key later).run dht = .ok latest after) :
    ∃ earlier, Chain format after latest earlier (messages ++ later) := by
  induction later generalizing dht key keys messages with
  | nil =>
    cases hRun
    rw [List.append_nil]
    exact ⟨keys, h⟩
  | cons message later ih =>
    obtain ⟨newKey, appended, hAppend, hRest⟩ := run_bind_eq_ok_iff.mp hRun
    obtain ⟨earlier, hChain⟩ := appendMessage_chain hFormat h hAppend
    rw [List.append_cons]
    exact ih hChain hRest

/-! ## Reading backwards -/

/-- The network fails no call from now on. -/
def Quiet (dht : Dht String KeyPair) : Prop := ∀ fault ∈ dht.faults, fault = none

omit [DecidableEq KeyPair] in
theorem Quiet.fault? (h : Quiet dht) : dht.fault? = none := by
  rw [Dht.fault?]
  cases hFaults : dht.faults with
  | nil => rfl
  | cons fault faults => exact h fault (hFaults ▸ List.mem_cons_self)

omit [DecidableEq KeyPair] in
theorem Quiet.next (h : Quiet dht) : Quiet dht.next := fun fault hFault => h fault (List.mem_of_mem_tail hFault)

omit [DecidableEq KeyPair] in
theorem Holds.readBatch_run (h : Holds format dht key batch) (hFault : dht.fault? = none) :
    (readBatch format key).run dht = .ok batch dht.next := by
  obtain ⟨record, hRecord, hSubkeys, hBatch⟩ := h.record
  rcases (getDhtValue_settles "get_dht_value" hRecord h.opened hSubkeys).cases with
    ⟨value, read, hRun, -, rfl, rfl⟩ | ⟨e, failed, hRun, hFailed, -⟩
  · rw [readBatch, run_bind_of_ok _ hRun, hBatch]
    rfl
  · exact absurd hFault hFailed

section
variable {limit : Nat} {collected : List ChannelMessage}

omit [DecidableEq KeyPair]

theorem readHistory_of_full (hFull : limit ≤ collected.length) :
    readHistory format limit (⟨collected, some key⟩, dht) = .inr (.ok collected dht) := by
  simp only [readHistory, Loops.stateful, historyRound, if_pos hFull]
  rfl

theorem readHistory_of_last : readHistory format limit (⟨collected, none⟩, dht) = .inr (.ok collected dht) := rfl

theorem Holds.readHistory (h : Holds format dht key batch) (hFault : dht.fault? = none)
    (hOpen : collected.length < limit) :
    Protocol.readHistory format limit (⟨collected, some key⟩, dht) = .inl (⟨collected ++ batch.messages.reverse.take
      (limit - collected.length), batch.prevRecordKey⟩, dht.next) := by
  simp only [Protocol.readHistory, Loops.stateful, historyRound, if_neg (Nat.not_le.mpr hOpen)]
  rw [run_bind_of_ok _ (h.readBatch_run hFault), pushUntil_eq hOpen]
  rfl

/-- From the latest record on the loop collects the messages of the chain, up to the limit. -/
theorem Chain.readHistory_returns (h : Chain format dht key keys messages) {current : Dht String KeyPair}
    (hRecords : current.records = dht.records) (hOpened : current.opened = dht.opened) (hQuiet : Quiet current) :
    ∃ final, Loops.Returns (readHistory format limit) (⟨collected, some key⟩, current)
      (.ok (collected ++ messages.reverse.take (limit - collected.length)) final) := by
  induction h generalizing current collected with
  | first hHolds =>
    by_cases hFull : limit ≤ collected.length
    · rw [Nat.sub_eq_zero_of_le hFull, List.take_zero, List.append_nil]
      exact ⟨current, Loops.returns_of_body (readHistory_of_full hFull)⟩
    · have hHeld := hHolds.congr (congrFun hRecords _) (congrFun hOpened _)
      have hRound := hHeld.readHistory hQuiet.fault? (Nat.lt_of_not_le hFull)
      exact ⟨current.next, (Loops.returns_step hRound).mpr (Loops.returns_of_body readHistory_of_last)⟩
  | @link _ _ _ earlier messages hHolds _ _ ih =>
    by_cases hFull : limit ≤ collected.length
    · rw [Nat.sub_eq_zero_of_le hFull, List.take_zero, List.append_nil]
      exact ⟨current, Loops.returns_of_body (readHistory_of_full hFull)⟩
    · have hHeld := hHolds.congr (congrFun hRecords _) (congrFun hOpened _)
      have hRound := hHeld.readHistory hQuiet.fault? (Nat.lt_of_not_le hFull)
      obtain ⟨final, hReturns⟩ := @ih (collected ++ messages.reverse.take (limit - collected.length)) current.next
        hRecords hOpened hQuiet.next
      refine ⟨final, (Loops.returns_step hRound).mpr ?_⟩
      rw [List.reverse_append, List.take_append, ← List.append_assoc]
      have hLeft : limit - (collected ++ messages.reverse.take (limit - collected.length)).length =
          limit - collected.length - messages.reverse.length := by
        rw [List.length_append, List.length_take, List.length_reverse]
        omega
      rwa [hLeft] at hReturns

end

end

namespace Reference

open Client Json

def messageValue (message : ChannelMessage) : Value := objectValue [
  ("sender_key", textValue message.senderKey), ("body", textValue message.body),
  ("timestamp", .number message.timestamp.toNat), ("nonce", textValue message.nonce),
  ("reply_to", optionValue textValue message.replyTo)]

def messageOf : Value → Option ChannelMessage
  | .object fields => do
    pure {
      senderKey := ← field fields "sender_key" textOf
      body := ← field fields "body" textOf
      timestamp := ← field fields "timestamp" wordOf
      nonce := ← field fields "nonce" textOf
      replyTo := ← field fields "reply_to" (optionOf textOf) }
  | _ => none

def batchValue (batch : MessageBatch) : Value := objectValue [
  ("prev_record_key", optionValue textValue batch.prevRecordKey), ("messages", listValue messageValue batch.messages)]

def batchOf : Value → Option MessageBatch
  | .object fields => do
    pure {
      prevRecordKey := ← field fields "prev_record_key" (optionOf textOf)
      messages := ← field fields "messages" (listOf messageOf) }
  | _ => none

def jsonBatches : BatchFormat where
  toVec batch := write (batchValue batch)
  fromSlice bytes := orThrow ((parse bytes).bind batchOf) "expected value"

theorem messageOf_messageValue (message : ChannelMessage) : messageOf (messageValue message) = some message := by
  simp [messageValue, messageOf, objectValue, field, List.lookup_cons, wordOf]

theorem jsonBatches_readsBack : jsonBatches.ReadsBack := by
  intro batch
  change orThrow ((parse (write (batchValue batch))).bind batchOf) _ = _
  rw [parse_write, Option.bind_some, orThrow_eq_ok_iff]
  simp [batchValue, batchOf, objectValue, field, List.lookup_cons, listOf_listValue messageOf_messageValue]

def sampleMessage (nonce : String) : ChannelMessage :=
  { senderKey := "alice", body := "hello", timestamp := 5, nonce, replyTo := none }

/-- Two messages in a new channel. -/
def twoAppended : DhtM String Nat String := do
  let first ← createBatch jsonBatches none
  appendAll jsonBatches first [sampleMessage "1", sampleMessage "2"]

end Reference

end Rekindle.Protocol
