import Rekindle.Protocol.FriendRecords
import Rekindle.Protocol.LogRuns

/-! # Conversation records

A record with a header, and a log for the messages whose key the header names. Creation gives back one key
pair, with which the creator opens the record again after a restart.
-/
namespace Rekindle.CapnpCodec
set_option autoImplicit false

open Capnp Codecs Fallible
open Protocol (Bytes ProtocolError Dht DhtM Record Codec.Laws DHTLog Stored Passed spineOf createDhtRecord openDhtRecord
  getDhtValue setDhtValue reach maxValueSize)

/-- The key of a conversation. `encrypt` draws the nonce. -/
structure DhtRecordKey where
  encrypt : Bytes → Bytes → Except ProtocolError Bytes
  decrypt : Bytes → Except ProtocolError Bytes

/-- What is encrypted is decrypted to what it was. -/
def DhtRecordKey.Opens (key : DhtRecordKey) : Prop :=
  ∀ nonce plaintext ciphertext, key.encrypt nonce plaintext = .ok ciphertext → key.decrypt ciphertext = .ok plaintext

structure ConversationRecord (RecordKey KeyPair : Type) where
  recordKey : RecordKey
  ownerKeypair : Option KeyPair
  messageLogKey : Option String
  deriving DecidableEq

variable {RecordKey KeyPair : Type} [DecidableEq RecordKey] [DecidableEq KeyPair]
  (codec : Protocol.Codec RecordKey) (capnp : Library Bytes) (encryptionKey : DhtRecordKey)

def sealHeader (nonce : Bytes) (header : ConversationHeader) : Except ProtocolError Bytes := do
  let plaintext ← (wireConversationHeader capnp).encode header
  encryptionKey.encrypt nonce plaintext

def openHeader (ciphertext : Bytes) : Except ProtocolError ConversationHeader := do
  let plaintext ← encryptionKey.decrypt ciphertext
  (wireConversationHeader capnp).decode plaintext

namespace ConversationRecord

/-- The key pair of the message log is dropped. -/
def create (nonce identityPublicKey : Bytes) (profile : UserProfile) (routeBlob : Bytes) (prekeyBundle : PreKeyBundle)
    (now : UInt64) : DhtM RecordKey KeyPair (ConversationRecord RecordKey KeyPair × KeyPair) := do
  let (key, keypair) ← createDhtRecord "create conversation record" 1 none
  reach fun _ => .dhtError "no owner secret after create"
  let (log, _) ← DHTLog.create codec
  let messageLogKey := codec.keyToString log.spineKey
  let header : ConversationHeader :=
    { identityPublicKey := identityPublicKey, profile := profile, messageLogKey := messageLogKey
      routeBlob := routeBlob, prekeyBundle := prekeyBundle, createdAt := now, updatedAt := now }
  let ciphertext ← ofExcept (sealHeader capnp encryptionKey nonce header)
  setDhtValue "write conversation header" key 0 ciphertext
  pure (⟨key, some keypair, some messageLogKey⟩, keypair)

/-- `open_write` with a key pair, `open_read` without. -/
def openAs (key : String) (ownerKeypair : Option KeyPair) :
    DhtM RecordKey KeyPair (ConversationRecord RecordKey KeyPair) := do
  let recordKey ← ofExcept ((codec.parseKey key).mapError fun e => .dhtError ("invalid key '" ++ key ++ "': " ++ e))
  openDhtRecord "open conversation record" recordKey ownerKeypair
  let messageLogKey ←
    match ← getDhtValue "read conversation header" recordKey 0 with
    | some data => do
      let header ← ofExcept (openHeader capnp encryptionKey data)
      pure (some header.messageLogKey)
    | none => pure none
  pure ⟨recordKey, ownerKeypair, messageLogKey⟩

variable (record : ConversationRecord RecordKey KeyPair)

def readHeader : DhtM RecordKey KeyPair ConversationHeader := do
  let value ← getDhtValue "read conversation header" record.recordKey 0
  let data ← ofExcept (orThrow value (.dhtError "conversation header not set"))
  ofExcept (openHeader capnp encryptionKey data)

def writeHeader (nonce : Bytes) (header : ConversationHeader) : DhtM RecordKey KeyPair Unit := do
  let ciphertext ← ofExcept (sealHeader capnp encryptionKey nonce header)
  setDhtValue "write conversation header" record.recordKey 0 ciphertext

def updateHeader (nonce : Bytes) (now : UInt64) (change : ConversationHeader → ConversationHeader) :
    DhtM RecordKey KeyPair Unit := do
  let header ← record.readHeader capnp encryptionKey
  record.writeHeader capnp encryptionKey nonce { change header with updatedAt := now }

def updateRouteBlob (nonce : Bytes) (now : UInt64) (routeBlob : Bytes) : DhtM RecordKey KeyPair Unit :=
  record.updateHeader capnp encryptionKey nonce now fun header => { header with routeBlob := routeBlob }

def updateProfile (nonce : Bytes) (now : UInt64) (profile : UserProfile) : DhtM RecordKey KeyPair Unit :=
  record.updateHeader capnp encryptionKey nonce now fun header => { header with profile := profile }

/-! ## After a restart -/

/-- The creator opens the record with the key pair and updates the header. -/
def reopenAndUpdate (key : String) (keypair : KeyPair) (nonce : Bytes) (now : UInt64)
    (change : ConversationHeader → ConversationHeader) : DhtM RecordKey KeyPair Unit := do
  let record ← openAs codec capnp encryptionKey key (some keypair)
  record.updateHeader capnp encryptionKey nonce now change

/-- The creator opens the record with the key pair, and with it the message log, and appends to the log. -/
def reopenAndAppend (key : String) (keypair : KeyPair) (data : Bytes) : DhtM RecordKey KeyPair UInt64 := do
  let record ← openAs codec capnp encryptionKey key (some keypair)
  let messageLogKey ← ofExcept (orThrow record.messageLogKey (.dhtError "no message log"))
  let log ← DHTLog.openWrite codec messageLogKey keypair
  log.append codec data

end ConversationRecord

/-! ## Headers -/

theorem decodeProfile_encoded (notInSchema : UInt16 → String) (header : ConversationHeader) :
    ∃ profile, decodeProfile notInSchema (get (encodeConversationHeader header).profile) = .ok profile := by
  have hGame : ∃ game, optionalGame (get (encodeConversationHeader header).profile).gameStatus = .ok game := by
    cases hStatus : header.profile.gameStatus with
    | none => exact ⟨none, by simp [encodeConversationHeader, optionalGame, hStatus, has]; rfl⟩
    | some info =>
      simp only [encodeConversationHeader, get_some, hStatus, Option.map_some, optionalGame, has, Option.isSome_some,
        if_true, readGameStatus, getText_setText, getOptionalText_set]
      exact ⟨_, rfl⟩
  obtain ⟨game, hGame⟩ := hGame
  rw [decodeProfile_eq, hGame]
  simp only [encodeConversationHeader, get_some, getEnum_ordinal, getText_setText, getTextOrEmpty_setText]
  exact ⟨_, rfl⟩

/-- Whatever the profile, the header is read back with the key of the message log. -/
theorem decode_encoded_header (notInSchema : UInt16 → String) (header : ConversationHeader) :
    ∃ read, decodeConversationHeader notInSchema (encodeConversationHeader header) = .ok read ∧
      read.messageLogKey = header.messageLogKey := by
  obtain ⟨profile, hProfile⟩ := decodeProfile_encoded notInSchema header
  rw [decodeConversationHeader_eq, hProfile]
  simp only [encodeConversationHeader, getText_setText]
  exact ⟨_, rfl, rfl⟩

/-- The library returns the headers that were set. -/
def ReturnsHeaders (capnp : Library Bytes) : Prop :=
  ∀ message, capnp.readMessage .conversationHeader (capnp.writeMessage .conversationHeader message) = .ok message

section
variable {codec capnp encryptionKey}

theorem openHeader_of_seal (hOpens : encryptionKey.Opens) (hCapnp : ReturnsHeaders capnp) {nonce ciphertext : Bytes}
    {header : ConversationHeader} (h : sealHeader capnp encryptionKey nonce header = .ok ciphertext) :
    ∃ read, openHeader capnp encryptionKey ciphertext = .ok read ∧ read.messageLogKey = header.messageLogKey := by
  obtain ⟨plaintext, hEncode, hEncrypt⟩ := bind_eq_ok_iff.mp h
  cases hEncode
  obtain ⟨read, hDecode, hKey⟩ := decode_encoded_header capnp.notInSchema header
  refine ⟨read, ?_, hKey⟩
  refine bind_eq_ok_iff.mpr ⟨_, hOpens _ _ _ hEncrypt, ?_⟩
  refine bind_eq_ok_iff.mpr ⟨encodeConversationHeader header, ?_, hDecode⟩
  change Except.mapError _ (capnp.readMessage .conversationHeader
    (capnp.writeMessage .conversationHeader (encodeConversationHeader header))) = _
  rw [hCapnp (encodeConversationHeader header)]
  rfl

/-! ## Creation and opening -/

variable {dht : Dht RecordKey KeyPair}

/-- What creation leaves: the owners of the record and of its log are those that the network has drawn. -/
structure Created (codec : Protocol.Codec RecordKey) (capnp : Library Bytes) (encryptionKey : DhtRecordKey)
    (dht : Dht RecordKey KeyPair) (record : ConversationRecord RecordKey KeyPair) (keypair : KeyPair)
    (after : Dht RecordKey KeyPair) (logKey : RecordKey) (logOwner : KeyPair) : Prop where
  drawn : (dht.supply.map Prod.snd)[0]? = some keypair
  drawnNext : (dht.supply.map Prod.snd)[1]? = some logOwner
  distinct : record.recordKey ≠ logKey
  record : ∃ stored, after.records record.recordKey = some stored ∧ stored.owner = keypair ∧ stored.subkeys = 1 ∧
    ∃ data header, stored.values 0 = some data ∧ openHeader capnp encryptionKey data = .ok header ∧
      header.messageLogKey = codec.keyToString logKey
  log : Stored codec after.records logKey logOwner [] 0 []

theorem created_of_ok (hLaws : codec.Laws) (hOpens : encryptionKey.Opens) (hCapnp : ReturnsHeaders capnp)
    {nonce identityPublicKey routeBlob : Bytes} {profile : UserProfile} {prekeyBundle : PreKeyBundle} {now : UInt64}
    {record : ConversationRecord RecordKey KeyPair} {keypair : KeyPair} {after : Dht RecordKey KeyPair}
    (h : (ConversationRecord.create codec capnp encryptionKey nonce identityPublicKey profile routeBlob prekeyBundle
      now).run dht = .ok (record, keypair) after) :
    ∃ logKey logOwner, Created codec capnp encryptionKey dht record keypair after logKey logOwner := by
  obtain ⟨⟨key, owner⟩, first, hCreate, h⟩ := run_bind_eq_ok_iff.mp h
  obtain ⟨-, ⟨fresh, hHead, hOwner⟩, hFree, rfl⟩ := (Protocol.createDhtRecord_settles _ 1 none).of_ok hCreate
  obtain ⟨_, second, hReach, h⟩ := run_bind_eq_ok_iff.mp h
  obtain ⟨-, rfl⟩ := Protocol.reach_eq_ok hReach
  obtain ⟨⟨log, logWriter⟩, third, hLog, h⟩ := run_bind_eq_ok_iff.mp h
  obtain ⟨logKey, logOwner, hNext, hCreated, hLogFree, hOthers, -, hStored⟩ :=
    (Protocol.create_fresh_settles hLaws _).of_ok hLog
  cases hCreated
  obtain ⟨ciphertext, fourth, hSeal, hWrite⟩ := run_bind_eq_ok_iff.mp h
  obtain ⟨hSealed, rfl⟩ := run_ofExcept_eq_ok hSeal
  obtain ⟨_, fifth, hSet, hReturn⟩ := run_bind_eq_ok_iff.mp hWrite
  cases hReturn
  obtain ⟨read, hOpen, hKey⟩ := openHeader_of_seal hOpens hCapnp hSealed
  obtain ⟨-, stored, hRecord, -, -, rfl⟩ := Protocol.setDhtValue_eq_ok hSet
  have hApart : key ≠ logKey := by
    rintro rfl
    cases (Function.update_self key _ dht.records).symm.trans hLogFree
  have hMade : fourth.records key = some ⟨keypair, 1, fun _ => none⟩ :=
    (hOthers key hApart).trans (Function.update_self ..)
  cases hMade.symm.trans hRecord
  refine ⟨logKey, logWriter, ?_, ?_, hApart, ⟨_, Function.update_self .., rfl, rfl, ciphertext, read, ?_, hOpen, hKey⟩, ?_⟩
  · obtain ⟨rest, hSupply⟩ := List.head?_eq_some_iff.mp hHead
    rw [hSupply]
    exact congrArg some hOwner.symm
  · obtain ⟨rest, hSupply⟩ := List.head?_eq_some_iff.mp hHead
    have hTail : dht.supply.tail.head? = some (logKey, logWriter) := hNext
    rw [hSupply, List.tail_cons] at hTail
    obtain ⟨later, hRest⟩ := List.head?_eq_some_iff.mp hTail
    rw [hSupply, hRest]
    rfl
  · exact Record.write_values_self ..
  · refine ⟨?_, fun _ hNone => (nomatch hNone), hStored.spans, hStored.distinct, hStored.keys_le⟩
    obtain ⟨spine, hSpine, hHolds⟩ := hStored.spine
    exact ⟨spine, (Function.update_of_ne hApart.symm ..).trans hSpine, hHolds⟩

/-- The records as creation left them, after the creator's process has ended. -/
structure Restarted (after net : Dht RecordKey KeyPair) : Prop where
  records : net.records = after.records
  closed : net.opened = fun _ => none

section
variable {record : ConversationRecord RecordKey KeyPair} {keypair logOwner : KeyPair} {after net : Dht RecordKey KeyPair}
  {logKey : RecordKey}

/-- What the network's part of opening the record leaves. -/
def reopened (net : Dht RecordKey KeyPair) (key : RecordKey) (keypair : KeyPair) : Dht RecordKey KeyPair :=
  (net.next.withOpened key (some keypair)).next

theorem openAs_settles (hLaws : codec.Laws)
    (hCreated : Created codec capnp encryptionKey dht record keypair after logKey logOwner) (hNet : Restarted after net) :
    Settles (fun opened later => opened = ⟨record.recordKey, some keypair, some (codec.keyToString logKey)⟩ ∧
        later = reopened net record.recordKey keypair ∧ Passed 2 net later)
      (fun _ _ => ¬net.Passes 2)
      (ConversationRecord.openAs codec capnp encryptionKey (codec.keyToString record.recordKey) (some keypair)) net := by
  obtain ⟨stored, hRecord, -, hSubkeys, data, header, hData, hOpen, hKey⟩ := hCreated.record
  have hKnown : net.records record.recordKey = some stored := by rw [hNet.records, hRecord]
  unfold ConversationRecord.openAs
  rw [hLaws.key]
  refine (Protocol.openDhtRecord_settles _ _ (by simp [hKnown])).bind ?_ ?_
  · rintro _ _ ⟨hFault, rfl⟩
    have hFirst : Passed 1 net (net.next.withOpened record.recordKey (some keypair)) :=
      Protocol.passed_one hFault rfl rfl
    have hOpened : (net.next.withOpened record.recordKey (some keypair)).opened record.recordKey = some (some keypair) :=
      Function.update_self ..
    have hStored : (net.next.withOpened record.recordKey (some keypair)).records record.recordKey = some stored := hKnown
    refine (Protocol.getDhtValue_settles _ hStored (by simp [hOpened]) (by omega)).bind ?_ ?_
    · rintro _ _ ⟨hRead, rfl, rfl⟩
      simp only [hData, hOpen, ofExcept_ok_bind, pure_bind, hKey]
      exact ⟨rfl, rfl, hFirst.next hRead rfl rfl⟩
    · rintro _ _ ⟨hRead, rfl⟩
      exact fun hPasses => hRead (hFirst.fault?_eq_none hPasses (by decide))
  · rintro _ _ ⟨hFault, rfl⟩
    exact fun hPasses => hFault (hPasses.fault?_eq_none (by decide))

theorem openWrite_settles (hLaws : codec.Laws)
    (hCreated : Created codec capnp encryptionKey dht record keypair after logKey logOwner) (hNet : Restarted after net) :
    Settles (fun log later => log = ⟨logKey, some keypair⟩ ∧
        later = (reopened net record.recordKey keypair).next.withOpened logKey (some keypair) ∧
        Passed 1 (reopened net record.recordKey keypair) later)
      (fun _ _ => ¬(reopened net record.recordKey keypair).Passes 1)
      (DHTLog.openWrite codec (codec.keyToString logKey) keypair) (reopened net record.recordKey keypair) := by
  obtain ⟨spine, hSpine, -⟩ := hCreated.log.spine
  have hKnown : (reopened net record.recordKey keypair).records logKey ≠ none := by
    change net.records logKey ≠ none
    rw [hNet.records, hSpine]
    exact Option.some_ne_none _
  unfold DHTLog.openWrite DHTLog.openAs
  rw [hLaws.key]
  refine (Protocol.openDhtRecord_settles _ _ hKnown).bind ?_ ?_
  · rintro _ _ ⟨hFault, rfl⟩
    exact ⟨rfl, rfl, Protocol.passed_one hFault rfl rfl⟩
  · rintro _ _ ⟨hFault, rfl⟩
    exact fun hPasses => hFault (hPasses.fault?_eq_none (by decide))

/-- The header that the record holds. -/
def storedHeader? (capnp : Library Bytes) (encryptionKey : DhtRecordKey) (net : Dht RecordKey KeyPair) (key : RecordKey) :
    Option ConversationHeader := do
  let record ← net.records key
  let data ← record.values 0
  (openHeader capnp encryptionKey data).toOption

/-- The network fails no call and has a key for a new record, and what is written fits into values. -/
structure Serves (codec : Protocol.Codec RecordKey) (capnp : Library Bytes) (encryptionKey : DhtRecordKey)
    (net : Dht RecordKey KeyPair) (key : RecordKey) (nonce : Bytes) (now : UInt64)
    (change : ConversationHeader → ConversationHeader) (data : Bytes) : Prop where
  passes : ∀ count, net.Passes count
  offers : ∃ fresh, net.offer? = some fresh ∧ net.records fresh = none ∧
    (codec.spineToVec (spineOf codec [fresh] 1)).length ≤ maxValueSize
  entry : data.length ≤ maxValueSize
  header : ∀ header ∈ storedHeader? capnp encryptionKey net key, ∃ ciphertext,
    sealHeader capnp encryptionKey nonce { change header with updatedAt := now } = .ok ciphertext ∧
      ciphertext.length ≤ maxValueSize

variable {nonce data : Bytes} {now : UInt64} {change : ConversationHeader → ConversationHeader}

theorem Serves.settled {α : Type} {P : α → Dht RecordKey KeyPair → Prop} {count : Nat} {x : DhtM RecordKey KeyPair α}
    (hServes : Serves codec capnp encryptionKey net record.recordKey nonce now change data)
    (h : Settles P (fun _ _ => ¬net.Passes count) x net) : ∃ a later, x.run net = .ok a later ∧ P a later := by
  rcases h.cases with h | ⟨_, _, -, hRefused⟩
  · exact h
  · exact absurd (hServes.passes count) hRefused

theorem update_settles (hLaws : codec.Laws)
    (hCreated : Created codec capnp encryptionKey dht record keypair after logKey logOwner) (hNet : Restarted after net)
    (hServes : Serves codec capnp encryptionKey net record.recordKey nonce now change data) :
    Settles (fun _ _ => True) (fun _ _ => ¬net.Passes 4)
      (ConversationRecord.reopenAndUpdate codec capnp encryptionKey (codec.keyToString record.recordKey) keypair nonce now
        change) net := by
  obtain ⟨stored, hRecord, hOwner, hSubkeys, bytes, header, hData, hOpen, -⟩ := hCreated.record
  have hKnown : net.records record.recordKey = some stored := by rw [hNet.records, hRecord]
  have hHeader : storedHeader? capnp encryptionKey net record.recordKey = some header := by
    simp [storedHeader?, hKnown, hData, hOpen, Except.toOption]
  obtain ⟨ciphertext, hSeal, hFits⟩ := hServes.header header hHeader
  refine (openAs_settles hLaws hCreated hNet).bind ?_ ?_
  · rintro _ _ ⟨rfl, rfl, hSecond⟩
    have hStored : (reopened net record.recordKey keypair).records record.recordKey = some stored := hKnown
    have hOpened : (reopened net record.recordKey keypair).opened record.recordKey = some (some stored.owner) := by
      rw [hOwner]
      exact Function.update_self ..
    refine Settles.bind (P := fun read later => read = header ∧ later = (reopened net record.recordKey keypair).next ∧
      Passed 3 net later) (E := fun _ _ => ¬net.Passes 3) ?_ ?_ ?_
    · refine (Protocol.getDhtValue_settles _ hStored (by simp [hOpened]) (by omega)).bind ?_ ?_
      · rintro _ _ ⟨hRead, rfl, rfl⟩
        simp only [hData, hOpen, orThrow, Option.elim_some, ofExcept_ok_bind]
        exact ⟨rfl, rfl, hSecond.next hRead rfl rfl⟩
      · rintro _ _ ⟨hRead, rfl⟩
        exact fun hPasses => hRead (hSecond.fault?_eq_none hPasses (by decide))
    · rintro _ _ ⟨rfl, rfl, hThird⟩
      have hStored' : (reopened net record.recordKey keypair).next.records record.recordKey = some stored := hKnown
      unfold ConversationRecord.writeHeader
      rw [hSeal]
      refine (Protocol.setDhtValue_settles _ hStored' hOpened (by omega)).mono (fun _ _ _ => trivial) ?_
      rintro _ _ ⟨hRefused, -⟩
      exact fun hPasses => hRefused hFits (hThird.fault?_eq_none hPasses (by decide))
    · exact fun _ _ hRefused hPasses => hRefused fun i hi => hPasses i (by omega)
  · exact fun _ _ hRefused hPasses => hRefused fun i hi => hPasses i (by omega)

theorem append_settles (hLaws : codec.Laws)
    (hCreated : Created codec capnp encryptionKey dht record keypair after logKey keypair) (hNet : Restarted after net)
    (hServes : Serves codec capnp encryptionKey net record.recordKey nonce now change data) :
    Settles (fun _ _ => True) (fun _ _ => ¬net.Passes 11)
      (ConversationRecord.reopenAndAppend codec capnp encryptionKey (codec.keyToString record.recordKey) keypair data)
      net := by
  obtain ⟨fresh, hOffer, hFree, hFits⟩ := hServes.offers
  refine (openAs_settles hLaws hCreated hNet).bind ?_ ?_
  · rintro _ _ ⟨rfl, rfl, hSecond⟩
    simp only [orThrow, Option.elim_some, ofExcept_ok_bind]
    refine (openWrite_settles hLaws hCreated hNet).bind ?_ ?_
    · rintro _ _ ⟨rfl, rfl, hNext⟩
      have hThird : Passed 3 net _ := hSecond.trans hNext
      have hStored : Stored codec net.records logKey keypair [] 0 [] := by
        rw [hNet.records]
        exact hCreated.log
      have hOpened : ((reopened net record.recordKey keypair).next.withOpened logKey (some keypair)).opened logKey =
          some (some keypair) := Function.update_self ..
      have hFull : ([] : List Bytes).length % 255 = 0 := rfl
      refine (Protocol.append_opening_settles hLaws rfl hStored hOpened hFull data).mono (fun _ _ _ => trivial) ?_
      rintro _ _ ⟨hRefused, -⟩ hPasses
      refine hRefused hServes.entry (hThird.rest (n := 8) hPasses) (fun key hKey => ?_) fresh hOffer hFree
      cases hOffer.symm.trans hKey
      exact hFits
    · exact fun _ _ hRefused hPasses => hRefused fun i hi => hSecond.rest (n := 9) hPasses i (by omega)
  · exact fun _ _ hRefused hPasses => hRefused fun i hi => hPasses i (by omega)

theorem append_refused (hLaws : codec.Laws)
    (hCreated : Created codec capnp encryptionKey dht record keypair after logKey logOwner) (hNet : Restarted after net)
    (hForeign : keypair ≠ logOwner) :
    Settles (fun _ _ => False) (fun _ _ => True)
      (ConversationRecord.reopenAndAppend codec capnp encryptionKey (codec.keyToString record.recordKey) keypair data)
      net := by
  refine (openAs_settles hLaws hCreated hNet).bind ?_ fun _ _ _ => trivial
  rintro _ _ ⟨rfl, rfl, -⟩
  simp only [orThrow, Option.elim_some, ofExcept_ok_bind]
  refine (openWrite_settles hLaws hCreated hNet).bind ?_ fun _ _ _ => trivial
  rintro _ _ ⟨rfl, rfl, -⟩
  have hStored : Stored codec net.records logKey logOwner [] 0 [] := by
    rw [hNet.records]
    exact hCreated.log
  exact Protocol.append_foreign_settles hLaws rfl hStored (Function.update_self ..) hForeign data

/-- What the creator of a conversation is to be able to do after a restart, with the key pair it was given. -/
structure Usable (codec : Protocol.Codec RecordKey) (capnp : Library Bytes) (encryptionKey : DhtRecordKey)
    (record : ConversationRecord RecordKey KeyPair) (keypair : KeyPair) (net : Dht RecordKey KeyPair) (nonce : Bytes)
    (now : UInt64) (change : ConversationHeader → ConversationHeader) (data : Bytes) : Prop where
  updates : ∃ later, (ConversationRecord.reopenAndUpdate codec capnp encryptionKey (codec.keyToString record.recordKey)
    keypair nonce now change).run net = .ok () later
  appends : ∃ position later, (ConversationRecord.reopenAndAppend codec capnp encryptionKey
    (codec.keyToString record.recordKey) keypair data).run net = .ok position later

end

theorem Created.usable_iff (hLaws : codec.Laws) {record : ConversationRecord RecordKey KeyPair} {keypair logOwner : KeyPair}
    {after net : Dht RecordKey KeyPair} {logKey : RecordKey}
    (hCreated : Created codec capnp encryptionKey dht record keypair after logKey logOwner) (hNet : Restarted after net)
    {nonce data : Bytes} {now : UInt64} {change : ConversationHeader → ConversationHeader}
    (hServes : Serves codec capnp encryptionKey net record.recordKey nonce now change data) :
    Usable codec capnp encryptionKey record keypair net nonce now change data ↔ keypair = logOwner := by
  constructor
  · rintro ⟨-, position, later, hRun⟩
    by_contra hForeign
    exact (append_refused hLaws hCreated hNet hForeign).of_ok hRun
  · rintro rfl
    obtain ⟨_, later, hUpdate, -⟩ := hServes.settled (update_settles hLaws hCreated hNet hServes)
    obtain ⟨position, last, hAppend, -⟩ := hServes.settled (append_settles hLaws hCreated hNet hServes)
    exact ⟨⟨later, hUpdate⟩, position, last, hAppend⟩

/-- The key pair that creation returns is that of the header. It opens the message log just when the network has
drawn the same for both. -/
theorem conversation_usable_iff (hLaws : codec.Laws) (hOpens : encryptionKey.Opens) (hCapnp : ReturnsHeaders capnp)
    {sealNonce identityPublicKey routeBlob : Bytes} {profile : UserProfile} {prekeyBundle : PreKeyBundle}
    {createdAt : UInt64} {record : ConversationRecord RecordKey KeyPair} {keypair : KeyPair}
    {after net : Dht RecordKey KeyPair}
    (hCreate : (ConversationRecord.create codec capnp encryptionKey sealNonce identityPublicKey profile routeBlob
      prekeyBundle createdAt).run dht = .ok (record, keypair) after)
    (hNet : Restarted after net) {nonce data : Bytes} {now : UInt64} {change : ConversationHeader → ConversationHeader}
    (hServes : Serves codec capnp encryptionKey net record.recordKey nonce now change data) :
    Usable codec capnp encryptionKey record keypair net nonce now change data ↔
      (dht.supply.map Prod.snd)[0]? = (dht.supply.map Prod.snd)[1]? := by
  obtain ⟨logKey, logOwner, hCreated⟩ := created_of_ok hLaws hOpens hCapnp hCreate
  rw [hCreated.drawn, hCreated.drawnNext, Option.some_inj]
  exact hCreated.usable_iff hLaws hNet hServes

end

namespace Reference

open Client Json Protocol.Reference

/-! ## Headers as JSON -/

def shortOf (value : Value) : Option UInt16 := (numberOf value).map UInt16.ofNat

def gameValue (gs : GameStatus) : Value := objectValue [
  ("gameId", wordValue gs.gameId), ("gameName", optionValue bytesValue gs.gameName),
  ("serverInfo", optionValue bytesValue gs.serverInfo), ("elapsedSeconds", wordValue gs.elapsedSeconds)]

def gameOf : Value → Option GameStatus
  | .object fields => do
    pure {
      gameId := ← field fields "gameId" Client.wordOf
      gameName := ← field fields "gameName" (optionOf bytesOf)
      serverInfo := ← field fields "serverInfo" (optionOf bytesOf)
      elapsedSeconds := ← field fields "elapsedSeconds" Client.wordOf }
  | _ => none

def profileValue (profile : Capnp.UserProfile) : Value := objectValue [
  ("displayName", optionValue bytesValue profile.displayName), ("statusMessage", optionValue bytesValue profile.statusMessage),
  ("status", .number profile.status.toNat), ("avatarHash", optionValue bytesValue profile.avatarHash),
  ("gameStatus", optionValue gameValue profile.gameStatus)]

def profileOf : Value → Option Capnp.UserProfile
  | .object fields => do
    pure {
      displayName := ← field fields "displayName" (optionOf bytesOf)
      statusMessage := ← field fields "statusMessage" (optionOf bytesOf)
      status := ← field fields "status" shortOf
      avatarHash := ← field fields "avatarHash" (optionOf bytesOf)
      gameStatus := ← field fields "gameStatus" (optionOf gameOf) }
  | _ => none

def bundleValue (bundle : Capnp.PreKeyBundle) : Value := objectValue [
  ("identityKey", optionValue bytesValue bundle.identityKey), ("signedPreKey", optionValue bytesValue bundle.signedPreKey),
  ("signedPreKeySig", optionValue bytesValue bundle.signedPreKeySig),
  ("oneTimePreKey", optionValue bytesValue bundle.oneTimePreKey), ("registrationId", wordValue bundle.registrationId)]

def bundleOf : Value → Option Capnp.PreKeyBundle
  | .object fields => do
    pure {
      identityKey := ← field fields "identityKey" (optionOf bytesOf)
      signedPreKey := ← field fields "signedPreKey" (optionOf bytesOf)
      signedPreKeySig := ← field fields "signedPreKeySig" (optionOf bytesOf)
      oneTimePreKey := ← field fields "oneTimePreKey" (optionOf bytesOf)
      registrationId := ← field fields "registrationId" Client.wordOf }
  | _ => none

def headerValue (header : Capnp.ConversationHeader) : Value := objectValue [
  ("identityPublicKey", optionValue bytesValue header.identityPublicKey), ("profile", optionValue profileValue header.profile),
  ("messageLogKey", optionValue bytesValue header.messageLogKey), ("routeBlob", optionValue bytesValue header.routeBlob),
  ("preKeyBundle", optionValue bundleValue header.preKeyBundle), ("createdAt", .number header.createdAt.toNat),
  ("updatedAt", .number header.updatedAt.toNat)]

def headerOf : Value → Option Capnp.ConversationHeader
  | .object fields => do
    pure {
      identityPublicKey := ← field fields "identityPublicKey" (optionOf bytesOf)
      profile := ← field fields "profile" (optionOf profileOf)
      messageLogKey := ← field fields "messageLogKey" (optionOf bytesOf)
      routeBlob := ← field fields "routeBlob" (optionOf bytesOf)
      preKeyBundle := ← field fields "preKeyBundle" (optionOf bundleOf)
      createdAt := ← field fields "createdAt" Protocol.Reference.wordOf
      updatedAt := ← field fields "updatedAt" Protocol.Reference.wordOf }
  | _ => none

theorem headerOf_headerValue (header : Capnp.ConversationHeader) : headerOf (headerValue header) = some header := by
  have hGame : ∀ gs, gameOf (gameValue gs) = some gs := by
    intro gs
    simp [gameValue, gameOf, objectValue, field, List.lookup_cons]
  have hProfile : ∀ profile, profileOf (profileValue profile) = some profile := by
    intro profile
    simp [profileValue, profileOf, objectValue, field, List.lookup_cons, shortOf, numberOf,
      optionOf_optionValue hGame rfl]
  have hBundle : ∀ bundle, bundleOf (bundleValue bundle) = some bundle := by
    intro bundle
    simp [bundleValue, bundleOf, objectValue, field, List.lookup_cons]
  simp [headerValue, headerOf, objectValue, field, List.lookup_cons, Protocol.Reference.wordOf,
    optionOf_optionValue hProfile rfl, optionOf_optionValue hBundle rfl]

/-- A library that writes headers as JSON. -/
def jsonHeaders : Library Bytes where
  writeMessage
    | .conversationHeader => fun message => write (headerValue message)
    | _ => fun _ => []
  readMessage
    | .conversationHeader => fun bytes => orThrow ((parse bytes).bind headerOf) "expected value"
    | _ => fun _ => .error "expected value"
  notInSchema n := toString n.toNat

theorem jsonHeaders_returns : ReturnsHeaders jsonHeaders := by
  intro message
  change orThrow ((parse (write (headerValue message))).bind headerOf) _ = _
  rw [parse_write, Option.bind_some, orThrow_eq_ok_iff]
  exact headerOf_headerValue message

/-- The nonce before the plaintext. -/
def openKey : DhtRecordKey where
  encrypt nonce plaintext := if nonce.length = 24 then .ok (nonce ++ plaintext) else .error (.dhtError "encryption failed")
  decrypt data := if data.length < 24 then .error (.dhtError "ciphertext too short") else .ok (data.drop 24)

theorem openKey_opens : openKey.Opens := by
  intro nonce plaintext ciphertext h
  simp only [openKey] at h ⊢
  split at h
  · next hNonce =>
    cases h
    rw [if_neg (by simp [hNonce]), List.drop_left' hNonce]
  · cases h

/-! ## A conversation -/

/-- A network that draws the key pair 7 for the record and another for its log. -/
def conversationNetwork (logOwner : Nat) : Dht String Nat :=
  Protocol.Reference.network [] [("conversation", 7), ("log", logOwner)]

def sampleNonce : Bytes := List.replicate 24 0

def createSample : DhtM String Nat (ConversationRecord String Nat × Nat) :=
  ConversationRecord.create Protocol.Reference.codec jsonHeaders openKey sampleNonce [1] ⟨"alice", "", 0, [], none⟩ [2]
    ⟨[1], [], [], [], 0⟩ 1000

def sampleRecord : ConversationRecord String Nat := ⟨"conversation", some 7, some "log"⟩

/-- The network after the restart, with a key for the first segment. -/
def sampleRestart (logOwner : Nat) : Dht String Nat :=
  { Result.state (createSample.run (conversationNetwork logOwner)) with
    opened := fun _ => none, supply := [("segment", 9)], faults := [] }

/-- What is left to compute: creation returns, the key of the segment is free, and the header fits again. -/
def sampleChecks (logOwner : Nat) : Bool :=
  decide (Result.value? (createSample.run (conversationNetwork logOwner)) = some (sampleRecord, 7)) &&
    ((sampleRestart logOwner).records "segment").isNone &&
    (storedHeader? jsonHeaders openKey (sampleRestart logOwner) "conversation").all fun header =>
      match sealHeader jsonHeaders openKey sampleNonce { header with updatedAt := 2000 } with
      | .ok ciphertext => decide (ciphertext.length ≤ maxValueSize)
      | .error _ => false

theorem sample_created {logOwner : Nat} (h : sampleChecks logOwner = true) :
    createSample.run (conversationNetwork logOwner) =
      .ok (sampleRecord, 7) (Result.state (createSample.run (conversationNetwork logOwner))) := by
  simp only [sampleChecks, Bool.and_eq_true, decide_eq_true_eq] at h
  exact eq_ok_of_value? h.1.1

theorem sample_restarted (logOwner : Nat) :
    Restarted (Result.state (createSample.run (conversationNetwork logOwner))) (sampleRestart logOwner) := ⟨rfl, rfl⟩

theorem sample_serves {logOwner : Nat} (h : sampleChecks logOwner = true) :
    Serves Protocol.Reference.codec jsonHeaders openKey (sampleRestart logOwner) sampleRecord.recordKey sampleNonce 2000 id
      [1, 2, 3] := by
  simp only [sampleChecks, Bool.and_eq_true, Option.isNone_iff_eq_none] at h
  refine ⟨fun count i _ => rfl, ⟨"segment", rfl, h.1.2, by decide +kernel⟩, by decide, fun header hHeader => ?_⟩
  have hFits := (Option.all_eq_true _ _).mp h.2 header hHeader
  cases hSeal : sealHeader jsonHeaders openKey sampleNonce { header with updatedAt := 2000 } with
  | ok ciphertext =>
    rw [hSeal] at hFits
    exact ⟨ciphertext, hSeal, of_decide_eq_true hFits⟩
  | error e =>
    rw [hSeal] at hFits
    cases hFits

/-- With key pairs as the network draws them, the one that creation returns does not open the message log. -/
theorem log_keypair_dropped : ¬∀ (dht after net : Dht String Nat) (record : ConversationRecord String Nat) (keypair : Nat),
    createSample.run dht = .ok (record, keypair) after → Restarted after net →
    Serves Protocol.Reference.codec jsonHeaders openKey net record.recordKey sampleNonce 2000 id [1, 2, 3] →
    Usable Protocol.Reference.codec jsonHeaders openKey record keypair net sampleNonce 2000 id [1, 2, 3] := by
  intro hClaim
  have hChecks : sampleChecks 8 = true := by decide +kernel
  obtain ⟨logKey, logOwner, hCreated⟩ :=
    created_of_ok Protocol.Reference.codec_laws openKey_opens jsonHeaders_returns (sample_created hChecks)
  have hUsable := hClaim _ _ _ _ _ (sample_created hChecks) (sample_restarted 8) (sample_serves hChecks)
  have hSame := (hCreated.usable_iff Protocol.Reference.codec_laws (sample_restarted 8) (sample_serves hChecks)).mp hUsable
  cases hSame
  cases hCreated.drawnNext

theorem conversation_usable_iff_sample :
    Usable Protocol.Reference.codec jsonHeaders openKey sampleRecord 7 (sampleRestart 7) sampleNonce 2000 id [1, 2, 3] ↔
      ((conversationNetwork 7).supply.map Prod.snd)[0]? = ((conversationNetwork 7).supply.map Prod.snd)[1]? :=
  conversation_usable_iff Protocol.Reference.codec_laws openKey_opens jsonHeaders_returns
    (sample_created (by decide +kernel : sampleChecks 7 = true)) (sample_restarted 7) (sample_serves (by decide +kernel))

end Reference

end Rekindle.CapnpCodec
