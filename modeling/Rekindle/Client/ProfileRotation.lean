import Rekindle.Client.PresenceFormats
import Rekindle.Library.Keyed
import Rekindle.Library.Utf8
import Rekindle.Protocol.Records

/-! # Rotation of the profile key

After a friend has been removed the profile moves to a new record. What friends read of the old record
should be found in the new one, except for the prekey bundle and the route, which are made anew.
-/
namespace Rekindle.Client.ProfileRotation
set_option autoImplicit false
open Fallible
open Protocol (Bytes ProtocolError Dht DhtM Record createDhtRecord setDhtValue maxValueSize)

structure ProfileNode (RecordKey KeyPair : Type) where
  profileDhtKey : Option RecordKey
  profileOwnerKeypair : Option KeyPair
  routeBlob : Option Bytes

structure ProfileIdentity where
  publicKey : String
  displayName : String
  status : UserStatus

/-- A row of `identity`. -/
structure IdentityRow (RecordKey KeyPair : Type) where
  publicKey : String
  dhtRecordKey : Option RecordKey
  dhtOwnerKeypair : Option KeyPair

structure ProfileOwner (RecordKey KeyPair : Type) where
  node : Option (ProfileNode RecordKey KeyPair)
  identity : Option ProfileIdentity
  identityRows : List (IdentityRow RecordKey KeyPair)
  friends : List String

/-- A call whose error is ignored. -/
def ignoreError {ε σ : Type} (call : EStateM ε σ Unit) : EStateM ε σ Unit := fun state =>
  match call state with
  | .ok _ after => .ok () after
  | .error _ after => .ok () after

theorem run_ignoreError {ε σ : Type} (call : EStateM ε σ Unit) (state : σ) :
    (ignoreError call).run state = .ok () (Result.state (call.run state)) := by
  unfold ignoreError EStateM.run
  dsimp only
  cases call state <;> rfl

variable {RecordKey KeyPair : Type} [DecidableEq RecordKey] [DecidableEq KeyPair]

/-- `rotate_profile_key`: the owner with the new record, and the friends that are told its key. `prekeyBytes` is
what the signal manager makes. -/
def rotateProfileKey (owner : ProfileOwner RecordKey KeyPair) (prekeyBytes : Bytes) :
    DhtM RecordKey KeyPair (ProfileOwner RecordKey KeyPair × List (String × RecordKey)) := do
  let node ← ofExcept (orThrow owner.node (.dhtError "node not initialized"))
  let (newKey, newKeypair) ←
    createDhtRecord "create new profile record: DHT operation failed: create_dht_record" profileSubkeyCount none
  let identity ← ofExcept (orThrow owner.identity (.dhtError "identity not set"))
  ignoreError (setDhtValue "set_dht_value" newKey 0 (Utf8.toBytes identity.displayName))
  ignoreError (setDhtValue "set_dht_value" newKey 1 [identity.status.toByte])
  ignoreError (setDhtValue "set_dht_value" newKey 5 prekeyBytes)
  ignoreError (setDhtValue "set_dht_value" newKey 6 (node.routeBlob.getD []))
  let moved : ProfileOwner RecordKey KeyPair :=
    { owner with
      node := some { node with profileDhtKey := some newKey, profileOwnerKeypair := some newKeypair }
      identityRows := Keyed.update IdentityRow.publicKey identity.publicKey
        (fun row => { row with dhtRecordKey := some newKey, dhtOwnerKeypair := some newKeypair }) owner.identityRows }
  pure (moved, owner.friends.map fun friend => (friend, newKey))

/-! ## What readers make of a profile -/

/-- A text, nothing if there is no value, and an error if the value is no text. -/
def readText (value : Option Bytes) : Except Unit (Option String) :=
  match value with
  | none => .ok none
  | some data => match Utf8.ofBytes data with
    | some text => .ok (some text)
    | none => .error ()

/-- The subkeys that are not made anew, decoded. -/
structure ReadProfile where
  displayName : Except Unit (Option String)
  statusMessage : Except Unit (Option String)
  status : Option UserStatus
  avatar : Option Bytes
  gameInfo : Option GameInfoState

def readProfile (parseGame : Bytes → Option GameInfoState) (values : Nat → Option Bytes) : ReadProfile where
  displayName := readText (values subkeyDisplayName)
  statusMessage := readText (values subkeyStatusMessage)
  status := (values subkeyStatus).bind parseStatus
  avatar := values subkeyAvatar
  gameInfo := (values subkeyGameInfo).bind (parseGameInfo parseGame)

/-- The values of the owner's profile record. -/
def profileValues (dht : Dht RecordKey KeyPair) (owner : ProfileOwner RecordKey KeyPair) : Nat → Option Bytes :=
  ((owner.node.bind ProfileNode.profileDhtKey).bind dht.records).elim (fun _ => none) Record.values

/-! ## The new record -/

/-- Call `i` from now goes through, with this value. -/
def Lands (dht : Dht RecordKey KeyPair) (i : Nat) (data : Bytes) : Prop :=
  dht.faults[i]?.join = none ∧ data.length ≤ maxValueSize

instance (dht : Dht RecordKey KeyPair) (i : Nat) (data : Bytes) : Decidable (Lands dht i data) :=
  inferInstanceAs (Decidable (_ ∧ _))

/-- What a write that may be lost leaves of a record. -/
def written (dht : Dht RecordKey KeyPair) (i subkey : Nat) (data : Bytes) (record : Record KeyPair) : Record KeyPair :=
  if Lands dht i data then record.write subkey data else record

section
variable {before dht after : Dht RecordKey KeyPair} {newKey : RecordKey} {record : Record KeyPair}
  {i subkey : Nat} {data : Bytes}

omit [DecidableEq RecordKey] [DecidableEq KeyPair] in
theorem written_values_self : (written dht i subkey data record).values subkey =
    if Lands dht i data then some data else record.values subkey := by
  rw [written]
  split
  · exact record.write_values_self subkey data
  · rfl

omit [DecidableEq RecordKey] [DecidableEq KeyPair] in
theorem written_values_of_ne {other : Nat} (h : other ≠ subkey) :
    (written dht i subkey data record).values other = record.values other := by
  rw [written]
  split
  · exact record.write_values_of_ne data h
  · rfl

/-- After `i` calls since `before` the record is open for its owner, and the others are as they were. -/
structure Filling (before : Dht RecordKey KeyPair) (newKey : RecordKey) (i : Nat) (record : Record KeyPair)
    (dht : Dht RecordKey KeyPair) : Prop where
  stored : dht.records newKey = some record
  opened : dht.opened newKey = some (some record.owner)
  subkeys : record.subkeys = profileSubkeyCount
  others : ∀ other ≠ newKey, dht.records other = before.records other
  faults : dht.faults = before.faults.drop i

theorem Filling.set (h : Filling before newKey i record dht) (label : String) (subkey : Nat) (data : Bytes)
    (hSubkey : subkey < profileSubkeyCount) :
    ∃ after, (ignoreError (setDhtValue label newKey subkey data)).run dht = .ok () after ∧
      Filling before newKey (i + 1) (written before i subkey data record) after := by
  have hFault : dht.fault? = before.faults[i]?.join := by
    rw [Dht.fault?, h.faults, List.head?_drop]
  have hTail : dht.faults.tail = before.faults.drop (i + 1) := by rw [h.faults, List.tail_drop]
  have hSettles : Settles _ _ (setDhtValue label newKey subkey data) dht :=
    Protocol.setDhtValue_settles label h.stored h.opened (h.subkeys ▸ hSubkey)
  rw [Settles] at hSettles
  cases hRun : (setDhtValue label newKey subkey data).run dht with
  | ok u after =>
    rw [hRun] at hSettles
    obtain ⟨hNone, hSize, rfl⟩ := hSettles
    have hLands : Lands before i data := ⟨hFault ▸ hNone, hSize⟩
    refine ⟨_, by rw [run_ignoreError, hRun, Result.state], ?_⟩
    rw [written, if_pos hLands]
    exact {
      stored := Function.update_self ..
      opened := h.opened
      subkeys := h.subkeys
      others := fun other hOther => (Function.update_of_ne hOther ..).trans (h.others other hOther)
      faults := hTail }
  | error e after =>
    rw [hRun] at hSettles
    obtain ⟨hLost, rfl⟩ := hSettles
    have hLands : ¬Lands before i data := fun hLands => hLost hLands.2 (hFault.trans hLands.1)
    refine ⟨_, by rw [run_ignoreError, hRun, Result.state], ?_⟩
    rw [written, if_neg hLands]
    exact { h with faults := hTail }

variable {owner moved : ProfileOwner RecordKey KeyPair} {prekeyBytes : Bytes} {notified : List (String × RecordKey)}

/-- The new record after the four writes, each of which may be lost. -/
def filledRecord (dht : Dht RecordKey KeyPair) (owner : KeyPair) (identity : ProfileIdentity) (prekeyBytes routeBlob : Bytes) :
    Record KeyPair :=
  written dht 4 6 routeBlob (written dht 3 5 prekeyBytes (written dht 2 1 [identity.status.toByte]
    (written dht 1 0 (Utf8.toBytes identity.displayName) ⟨owner, profileSubkeyCount, fun _ => none⟩)))

theorem rotateProfileKey_record (hRun : (rotateProfileKey owner prekeyBytes).run dht = .ok (moved, notified) after) :
    ∃ node identity newKey newKeypair, owner.node = some node ∧ owner.identity = some identity ∧
      moved.node.bind ProfileNode.profileDhtKey = some newKey ∧ dht.records newKey = none ∧
      Filling dht newKey 5 (filledRecord dht newKeypair identity prekeyBytes (node.routeBlob.getD [])) after := by
  unfold rotateProfileKey at hRun
  obtain ⟨node, reached, hNode, hCreating⟩ := run_bind_eq_ok_iff.mp hRun
  obtain ⟨hNodeSome, rfl⟩ := run_ofExcept_eq_ok hNode
  obtain ⟨⟨newKey, newKeypair⟩, created, hCreate, hFilling⟩ := run_bind_eq_ok_iff.mp hCreating
  obtain ⟨identity, started, hIdentity, hWriting⟩ := run_bind_eq_ok_iff.mp hFilling
  obtain ⟨hIdentitySome, rfl⟩ := run_ofExcept_eq_ok hIdentity
  have hCreated : Settles _ _ (createDhtRecord _ profileSubkeyCount none) reached := Protocol.createDhtRecord_settles
    "create new profile record: DHT operation failed: create_dht_record" profileSubkeyCount none
  rw [Settles, hCreate] at hCreated
  obtain ⟨hFault, -, hFresh, rfl⟩ := hCreated
  have hEmpty : Filling reached newKey 1 ⟨newKeypair, profileSubkeyCount, fun _ => none⟩
      (reached.next.created newKey newKeypair profileSubkeyCount) := {
    stored := Function.update_self ..
    opened := Function.update_self ..
    subkeys := rfl
    others := fun other hOther => Function.update_of_ne hOther ..
    faults := List.drop_one.symm }
  obtain ⟨named, hNamed, hFilled⟩ := hEmpty.set "set_dht_value" 0 (Utf8.toBytes identity.displayName)
    (by decide)
  rw [run_bind_of_ok _ hNamed] at hWriting
  obtain ⟨withStatus, hStatus, hFilled⟩ := hFilled.set "set_dht_value" 1 [identity.status.toByte]
    (by decide)
  rw [run_bind_of_ok _ hStatus] at hWriting
  obtain ⟨withPrekey, hPrekey, hFilled⟩ := hFilled.set "set_dht_value" 5 prekeyBytes
    (by decide)
  rw [run_bind_of_ok _ hPrekey] at hWriting
  obtain ⟨withRoute, hRoute, hFilled⟩ := hFilled.set "set_dht_value" 6 (node.routeBlob.getD [])
    (by decide)
  rw [run_bind_of_ok _ hRoute] at hWriting
  cases hWriting
  exact ⟨node, identity, newKey, newKeypair, orThrow_eq_ok_iff.mp hNodeSome, orThrow_eq_ok_iff.mp hIdentitySome, rfl,
    hFresh, hFilled⟩

/-- What a call that may be lost writes. -/
def landed (dht : Dht RecordKey KeyPair) (i : Nat) (data : Bytes) : Option Bytes :=
  if Lands dht i data then some data else none

omit [DecidableEq RecordKey] [DecidableEq KeyPair] in
theorem filledRecord_displayName {owner : KeyPair} {identity : ProfileIdentity} {routeBlob : Bytes} :
    (filledRecord dht owner identity prekeyBytes routeBlob).values subkeyDisplayName =
      landed dht 1 (Utf8.toBytes identity.displayName) := by
  rw [filledRecord, written_values_of_ne (by decide), written_values_of_ne (by decide),
    written_values_of_ne (by decide)]
  exact written_values_self

omit [DecidableEq RecordKey] [DecidableEq KeyPair] in
/-- The status is written where the status message is read. -/
theorem filledRecord_statusMessage {owner : KeyPair} {identity : ProfileIdentity} {routeBlob : Bytes} :
    (filledRecord dht owner identity prekeyBytes routeBlob).values subkeyStatusMessage =
      landed dht 2 [identity.status.toByte] := by
  rw [filledRecord, written_values_of_ne (by decide), written_values_of_ne (by decide)]
  refine written_values_self.trans ?_
  rw [written_values_of_ne (by decide), landed]

omit [DecidableEq RecordKey] [DecidableEq KeyPair] in
theorem filledRecord_of_ne {owner : KeyPair} {identity : ProfileIdentity} {routeBlob : Bytes}
    (hName : subkey ≠ 0) (hStatus : subkey ≠ 1) (hPrekey : subkey ≠ 5) (hRoute : subkey ≠ 6) :
    (filledRecord dht owner identity prekeyBytes routeBlob).values subkey = none := by
  rw [filledRecord, written_values_of_ne hRoute, written_values_of_ne hPrekey, written_values_of_ne hStatus,
    written_values_of_ne hName]

/-- The old profile shows what a new one can: the name, a status byte for a message, and nothing else. -/
structure Carried (parseGame : Bytes → Option GameInfoState) (dht : Dht RecordKey KeyPair) (identity : ProfileIdentity)
    (old : Nat → Option Bytes) : Prop where
  displayName : readText (old subkeyDisplayName) = readText (landed dht 1 (Utf8.toBytes identity.displayName))
  statusMessage : readText (old subkeyStatusMessage) = readText (landed dht 2 [identity.status.toByte])
  status : (old subkeyStatus).bind parseStatus = none
  avatar : old subkeyAvatar = none
  gameInfo : (old subkeyGameInfo).bind (parseGameInfo parseGame) = none

/-- The other records are as before, the old profile among them. -/
theorem rotateProfileKey_frame (hRun : (rotateProfileKey owner prekeyBytes).run dht = .ok (moved, notified) after)
    {key : RecordKey} {record : Record KeyPair} (hRecord : dht.records key = some record) :
    after.records key = some record := by
  obtain ⟨_, _, newKey, _, -, -, -, hFresh, hFilled⟩ := rotateProfileKey_record hRun
  have hOther : key ≠ newKey := by
    rintro rfl
    exact nomatch hRecord.symm.trans hFresh
  rw [hFilled.others key hOther, hRecord]

/-- What friends read of the new record. -/
theorem readProfile_moved (parseGame : Bytes → Option GameInfoState) {identity : ProfileIdentity}
    (hIdentity : owner.identity = some identity)
    (hRun : (rotateProfileKey owner prekeyBytes).run dht = .ok (moved, notified) after) :
    readProfile parseGame (profileValues after moved) = {
      displayName := readText (landed dht 1 (Utf8.toBytes identity.displayName))
      statusMessage := readText (landed dht 2 [identity.status.toByte])
      status := none
      avatar := none
      gameInfo := none } := by
  obtain ⟨node, _, newKey, newKeypair, -, hSome, hMoved, -, hFilled⟩ := rotateProfileKey_record hRun
  obtain rfl := Option.some.inj (hIdentity.symm.trans hSome)
  have hValues : profileValues after moved =
      (filledRecord dht newKeypair identity prekeyBytes (node.routeBlob.getD [])).values := by
    rw [profileValues, hMoved, Option.bind_some, hFilled.stored]
    rfl
  rw [hValues, readProfile, filledRecord_displayName, filledRecord_statusMessage,
    filledRecord_of_ne (by decide) (by decide) (by decide) (by decide),
    filledRecord_of_ne (by decide) (by decide) (by decide) (by decide),
    filledRecord_of_ne (by decide) (by decide) (by decide) (by decide)]
  rfl

/-- A rotation preserves the profile exactly if the old record shows nothing under the status, avatar and game
subkeys, and the status byte passes for its status message. -/
theorem rotation_preserves_profile_iff (parseGame : Bytes → Option GameInfoState) {identity : ProfileIdentity}
    (hIdentity : owner.identity = some identity)
    (hRun : (rotateProfileKey owner prekeyBytes).run dht = .ok (moved, notified) after) :
    readProfile parseGame (profileValues after moved) = readProfile parseGame (profileValues dht owner) ↔
      Carried parseGame dht identity (profileValues dht owner) := by
  rw [readProfile_moved parseGame hIdentity hRun, readProfile, ReadProfile.mk.injEq]
  constructor
  · rintro ⟨hName, hMessage, hStatus, hAvatar, hGame⟩
    exact ⟨hName.symm, hMessage.symm, hStatus.symm, hAvatar.symm, hGame.symm⟩
  · intro hCarried
    exact ⟨hCarried.displayName.symm, hCarried.statusMessage.symm, hCarried.status.symm, hCarried.avatar.symm,
      hCarried.gameInfo.symm⟩

end

/-! ## Two rotations -/

/-- An owner whose profile is under the key 0. -/
def sampleOwner : ProfileOwner Nat Nat where
  node := some ⟨some 0, some 7, some [6]⟩
  identity := some ⟨"key", "name", .busy⟩
  identityRows := [⟨"key", some 0, some 7⟩]
  friends := ["friend"]

def sampleDht (values : Nat → Option Bytes) : Dht Nat Nat where
  records key := if key = 0 then some ⟨7, profileSubkeyCount, values⟩ else none
  opened _ := none
  supply := [(1, 8)]
  faults := []
  failures := 0

theorem rotateProfileKey_sample (values : Nat → Option Bytes) :
    ∃ moved notified after, (rotateProfileKey sampleOwner [5]).run (sampleDht values) = .ok (moved, notified) after :=
  ⟨_, _, _, rfl⟩

/-- A profile that has been rotated before. -/
def rotatedBefore : Nat → Option Bytes
  | 0 => some (Utf8.toBytes "name")
  | 1 => some [2]
  | _ => none

/-- A profile whose owner has published a status. -/
def publishedStatus : Nat → Option Bytes
  | 0 => some (Utf8.toBytes "name")
  | 1 => some (Utf8.toBytes "hi")
  | 2 => some (statusPayload .busy 1700000000000)
  | _ => none

theorem rotation_preserves_profile_iff_rotated : ∃ moved notified after,
    (rotateProfileKey sampleOwner [5]).run (sampleDht rotatedBefore) = .ok (moved, notified) after ∧
    readProfile (fun _ => none) (profileValues after moved) =
      readProfile (fun _ => none) (profileValues (sampleDht rotatedBefore) sampleOwner) := by
  obtain ⟨moved, notified, after, hRun⟩ := rotateProfileKey_sample rotatedBefore
  exact ⟨moved, notified, after, hRun, (rotation_preserves_profile_iff (fun _ => none) rfl hRun).mpr
    ⟨rfl, rfl, rfl, rfl, rfl⟩⟩

theorem rotation_loses_status : ∃ moved notified after,
    (rotateProfileKey sampleOwner [5]).run (sampleDht publishedStatus) = .ok (moved, notified) after ∧
    (readProfile (fun _ => none) (profileValues (sampleDht publishedStatus) sampleOwner)).status = some .busy ∧
    (readProfile (fun _ => none) (profileValues after moved)).status = none ∧
    readProfile (fun _ => none) (profileValues after moved) ≠
      readProfile (fun _ => none) (profileValues (sampleDht publishedStatus) sampleOwner) := by
  obtain ⟨moved, notified, after, hRun⟩ := rotateProfileKey_sample publishedStatus
  have hOld : (readProfile (fun _ => none) (profileValues (sampleDht publishedStatus) sampleOwner)).status = some .busy :=
    parseStatus_statusPayload .busy 1700000000000
  have hNew : (readProfile (fun _ => none) (profileValues after moved)).status = none := by
    rw [readProfile_moved (fun _ => none) rfl hRun]
  refine ⟨moved, notified, after, hRun, hOld, hNew, fun hSame => ?_⟩
  rw [hSame, hOld] at hNew
  exact nomatch hNew

end Rekindle.Client.ProfileRotation
