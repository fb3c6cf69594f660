import Rekindle.Client.Envelope
import Rekindle.Library.Json

/-! # Payloads and bundles as JSON

The JSON texts of payloads and bundles, field by field as the serializer names them. They
instantiate the external serializer.
-/
namespace Rekindle.Client
set_option autoImplicit false

open Json Signal

/-! ## Fields -/

def textValue (text : String) : Value := .string (ascii text)

def textOf : Value → Option String
  | .string bytes => String.fromUTF8? ⟨bytes.toArray⟩
  | _ => none

def byteOf : Value → Option UInt8
  | .number n => if n < 256 then some (UInt8.ofNat n) else none
  | _ => none

def bytesValue (bytes : Bytes) : Value := .array (bytes.map fun byte => .number byte.toNat)

def bytesOf : Value → Option Bytes
  | .array items => items.mapM byteOf
  | _ => none

def wordValue (word : UInt32) : Value := .number word.toNat

def wordOf : Value → Option UInt32
  | .number n => if n < UInt32.size then some (UInt32.ofNat n) else none
  | _ => none

def boolOf : Value → Option Bool
  | .bool b => some b
  | _ => none

def optionValue {α : Type} (write : α → Value) (value : Option α) : Value := value.elim .null write

def optionOf {α : Type} (read : Value → Option α) : Value → Option (Option α)
  | .null => some none
  | value => (read value).map some

def objectValue (fields : List (String × Value)) : Value :=
  .object (fields.map fun (name, value) => (ascii name, value))

def field {α : Type} (fields : List (Text × Value)) (name : String) (read : Value → Option α) : Option α :=
  (fields.lookup (ascii name)).bind read

theorem ascii_injective : Function.Injective ascii := by
  intro a b h
  have hArray : a.toUTF8.data = b.toUTF8.data := Array.toList_inj.mp h
  exact String.toByteArray_inj.mp (ByteArray.ext hArray)

@[simp] theorem ascii_beq (a b : String) : (ascii a == ascii b) = (a == b) := by
  rw [Bool.eq_iff_iff, beq_iff_eq, beq_iff_eq]
  exact ascii_injective.eq_iff

@[simp] theorem textOf_textValue (text : String) : textOf (textValue text) = some text := by
  have hArray : (⟨(ascii text).toArray⟩ : ByteArray) = text.toUTF8 := by simp [ascii]
  have hRead : String.fromUTF8? text.toUTF8 = some text := dif_pos text.isValidUTF8
  rw [textValue, textOf, hArray, hRead]

@[simp] theorem byteOf_number (byte : UInt8) : byteOf (.number byte.toNat) = some byte := by
  rw [byteOf, if_pos byte.toNat_lt, UInt8.ofNat_toNat]

@[simp] theorem bytesOf_bytesValue (bytes : Bytes) : bytesOf (bytesValue bytes) = some bytes := by
  rw [bytesValue, bytesOf]
  induction bytes with
  | nil => rfl
  | cons byte bytes ih => simp [List.mapM_cons, ih]

@[simp] theorem wordOf_wordValue (word : UInt32) : wordOf (wordValue word) = some word := by
  rw [wordValue, wordOf, if_pos word.toNat_lt, UInt32.ofNat_toNat]

/-- A value that is not read from `null` is read back behind an `Option`. -/
theorem optionOf_optionValue {α : Type} {write : α → Value} {read : Value → Option α}
    (hRead : ∀ a, read (write a) = some a) (hNull : read .null = none) (value : Option α) :
    optionOf read (optionValue write value) = some value := by
  cases value with
  | none => rfl
  | some a =>
    have hWritten : write a ≠ .null := by
      intro h
      have hA := hRead a
      rw [h, hNull] at hA
      cases hA
    change optionOf read (write a) = some (some a)
    cases hValue : write a with
    | null => exact absurd hValue hWritten
    | bool | number | negative | string | array | object => rw [optionOf, ← hValue, hRead, Option.map_some]; nofun

@[simp] theorem optionOf_text (value : Option String) :
    optionOf textOf (optionValue textValue value) = some value :=
  optionOf_optionValue textOf_textValue rfl value

@[simp] theorem optionOf_bytes (value : Option Bytes) :
    optionOf bytesOf (optionValue bytesValue value) = some value :=
  optionOf_optionValue bytesOf_bytesValue rfl value

@[simp] theorem optionOf_word (value : Option UInt32) :
    optionOf wordOf (optionValue wordValue value) = some value :=
  optionOf_optionValue wordOf_wordValue rfl value

/-! ## Payloads -/

def gameInfoValue (info : GameInfo) : Value := objectValue [
  ("game_id", wordValue info.gameId),
  ("game_name", textValue info.gameName),
  ("server_info", optionValue textValue info.serverInfo),
  ("elapsed_seconds", wordValue info.elapsedSeconds)]

def gameInfoOf : Value → Option GameInfo
  | .object fields => do
    pure {
      gameId := ← field fields "game_id" wordOf
      gameName := ← field fields "game_name" textOf
      serverInfo := ← field fields "server_info" (optionOf textOf)
      elapsedSeconds := ← field fields "elapsed_seconds" wordOf }
  | _ => none

def tagged (tag : String) (fields : List (String × Value)) : Value :=
  objectValue (("type", textValue tag) :: fields)

def payloadValue : MessagePayload → Value
  | .directMessage body replyTo => tagged "DirectMessage"
    [("body", textValue body), ("reply_to", optionValue bytesValue replyTo)]
  | .channelMessage channelId body replyTo => tagged "ChannelMessage"
    [("channel_id", textValue channelId), ("body", textValue body),
     ("reply_to", optionValue bytesValue replyTo)]
  | .typingIndicator typing => tagged "TypingIndicator" [("typing", .bool typing)]
  | .friendRequest request => tagged "FriendRequest"
    [("display_name", textValue request.displayName), ("message", textValue request.message),
     ("prekey_bundle", bytesValue request.prekeyBundle),
     ("profile_dht_key", textValue request.profileDhtKey),
     ("route_blob", bytesValue request.routeBlob),
     ("mailbox_dht_key", textValue request.mailboxDhtKey)]
  | .friendAccept accept => tagged "FriendAccept"
    [("prekey_bundle", bytesValue accept.prekeyBundle),
     ("profile_dht_key", textValue accept.profileDhtKey),
     ("route_blob", bytesValue accept.routeBlob),
     ("mailbox_dht_key", textValue accept.mailboxDhtKey),
     ("ephemeral_key", bytesValue accept.ephemeralKey),
     ("signed_prekey_id", wordValue accept.signedPrekeyId),
     ("one_time_prekey_id", optionValue wordValue accept.oneTimePrekeyId)]
  | .friendReject => tagged "FriendReject" []
  | .profileKeyRotated newProfileDhtKey => tagged "ProfileKeyRotated"
    [("new_profile_dht_key", textValue newProfileDhtKey)]
  | .friendRequestReceived => tagged "FriendRequestReceived" []
  | .presenceUpdate status gameInfo => tagged "PresenceUpdate"
    [("status", .number status.toNat), ("game_info", optionValue gameInfoValue gameInfo)]
  | .unfriended => tagged "Unfriended" []
  | .unfriendedAck => tagged "UnfriendedAck" []

def friendRequestOf (fields : List (Text × Value)) : Option FriendRequest := do
  pure {
    displayName := ← field fields "display_name" textOf
    message := ← field fields "message" textOf
    prekeyBundle := ← field fields "prekey_bundle" bytesOf
    profileDhtKey := ← field fields "profile_dht_key" textOf
    routeBlob := ← field fields "route_blob" bytesOf
    mailboxDhtKey := ← field fields "mailbox_dht_key" textOf }

def friendAcceptOf (fields : List (Text × Value)) : Option FriendAccept := do
  pure {
    prekeyBundle := ← field fields "prekey_bundle" bytesOf
    profileDhtKey := ← field fields "profile_dht_key" textOf
    routeBlob := ← field fields "route_blob" bytesOf
    mailboxDhtKey := ← field fields "mailbox_dht_key" textOf
    ephemeralKey := ← field fields "ephemeral_key" bytesOf
    signedPrekeyId := ← field fields "signed_prekey_id" wordOf
    oneTimePrekeyId := ← field fields "one_time_prekey_id" (optionOf wordOf) }

/-- The payload of the variant with the tag. -/
def taggedPayloadOf (fields : List (Text × Value)) (tag : String) : Option MessagePayload :=
  if tag = "DirectMessage" then do
    pure (.directMessage (← field fields "body" textOf) (← field fields "reply_to" (optionOf bytesOf)))
  else if tag = "ChannelMessage" then do
    pure (.channelMessage (← field fields "channel_id" textOf) (← field fields "body" textOf)
      (← field fields "reply_to" (optionOf bytesOf)))
  else if tag = "TypingIndicator" then (field fields "typing" boolOf).map .typingIndicator
  else if tag = "FriendRequest" then (friendRequestOf fields).map .friendRequest
  else if tag = "FriendAccept" then (friendAcceptOf fields).map .friendAccept
  else if tag = "FriendReject" then some .friendReject
  else if tag = "ProfileKeyRotated" then
    (field fields "new_profile_dht_key" textOf).map .profileKeyRotated
  else if tag = "FriendRequestReceived" then some .friendRequestReceived
  else if tag = "PresenceUpdate" then do
    pure (.presenceUpdate (← field fields "status" byteOf)
      (← field fields "game_info" (optionOf gameInfoOf)))
  else if tag = "Unfriended" then some .unfriended
  else if tag = "UnfriendedAck" then some .unfriendedAck
  else none

def payloadOf : Value → Option MessagePayload
  | .object fields => (field fields "type" textOf).bind (taggedPayloadOf fields)
  | _ => none

theorem gameInfoOf_gameInfoValue (info : GameInfo) : gameInfoOf (gameInfoValue info) = some info := by
  simp [gameInfoValue, gameInfoOf, objectValue, field, List.lookup_cons]

@[simp] theorem optionOf_gameInfo (value : Option GameInfo) :
    optionOf gameInfoOf (optionValue gameInfoValue value) = some value :=
  optionOf_optionValue gameInfoOf_gameInfoValue rfl value

theorem payloadOf_payloadValue (payload : MessagePayload) :
    payloadOf (payloadValue payload) = some payload := by
  cases payload with
  | friendRequest request =>
    simp [payloadValue, tagged, objectValue, payloadOf, field, List.lookup_cons, taggedPayloadOf, friendRequestOf]
  | friendAccept accept =>
    simp [payloadValue, tagged, objectValue, payloadOf, field, List.lookup_cons, taggedPayloadOf, friendAcceptOf]
  | directMessage | channelMessage | typingIndicator | friendReject | profileKeyRotated
  | friendRequestReceived | presenceUpdate | unfriended | unfriendedAck =>
    simp [payloadValue, tagged, objectValue, payloadOf, field, List.lookup_cons, taggedPayloadOf, boolOf]

/-! ## Bundles -/

def bundleValue (bundle : PreKeyBundle) : Value := objectValue [
  ("identity_key", bytesValue bundle.identityKey),
  ("signed_prekey", bytesValue bundle.signedPrekey),
  ("signed_prekey_signature", bytesValue bundle.signedPrekeySignature),
  ("one_time_prekey", optionValue bytesValue bundle.oneTimePrekey),
  ("registration_id", wordValue bundle.registrationId)]

def bundleOf : Value → Option PreKeyBundle
  | .object fields => do
    pure {
      identityKey := ← field fields "identity_key" bytesOf
      signedPrekey := ← field fields "signed_prekey" bytesOf
      signedPrekeySignature := ← field fields "signed_prekey_signature" bytesOf
      oneTimePrekey := ← field fields "one_time_prekey" (optionOf bytesOf)
      registrationId := ← field fields "registration_id" wordOf }
  | _ => none

theorem bundleOf_bundleValue (bundle : PreKeyBundle) : bundleOf (bundleValue bundle) = some bundle := by
  simp [bundleValue, bundleOf, objectValue, field, List.lookup_cons]

/-! ## Invites -/

/-- The signed fields of an invite, in the order of a sorted map. -/
def inviteValue (blob : InviteBlob) : Value := objectValue [
  ("display_name", textValue blob.displayName),
  ("mailbox_dht_key", textValue blob.mailboxDhtKey),
  ("prekey_bundle", bytesValue blob.prekeyBundle),
  ("profile_dht_key", textValue blob.profileDhtKey),
  ("public_key", textValue blob.publicKey),
  ("route_blob", bytesValue blob.routeBlob)]

end Rekindle.Client
