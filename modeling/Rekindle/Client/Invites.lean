import Rekindle.Client.Conversations
import Rekindle.Library.Base64
import Rekindle.Library.JsonGrammar

/-! # Invite blobs

An invite is signed over the JSON of its fields and shared as a URL. Whoever checks the signature builds the
signed text from the fields that were received.
-/
namespace Rekindle.Client.Invites
set_option autoImplicit false

open ByteWords Fallible Json Signal

/-- The JSON reader, the check of a key and the texts of errors. -/
structure Libraries where
  /-- `serde_json::from_slice`. -/
  fromSlice : Bytes → Except String InviteBlob
  hexError : String → String
  base64Error : String → String
  /-- `VerifyingKey::from_bytes` refuses the key. -/
  keyFault : Key → Option String
  signatureError : String

/-- The JSON that the signature covers. -/
def signable (blob : InviteBlob) : Bytes := write (inviteValue blob)

/-- The JSON of the whole blob, in the order of its fields. -/
def blobValue (blob : InviteBlob) : Value := objectValue [
  ("public_key", textValue blob.publicKey), ("display_name", textValue blob.displayName),
  ("mailbox_dht_key", textValue blob.mailboxDhtKey), ("profile_dht_key", textValue blob.profileDhtKey),
  ("route_blob", bytesValue blob.routeBlob), ("prekey_bundle", bytesValue blob.prekeyBundle),
  ("signature", bytesValue blob.signature)]

def blobToVec (blob : InviteBlob) : Bytes := write (blobValue blob)

variable (prims : Primitives) (libs : Libraries)

def createInviteBlob (secretKey : Key) (publicKey displayName mailboxDhtKey profileDhtKey : String)
    (routeBlob prekeyBundle : Bytes) : InviteBlob :=
  let unsigned : InviteBlob := ⟨publicKey, displayName, mailboxDhtKey, profileDhtKey, routeBlob, prekeyBundle, []⟩
  { unsigned with signature := (prims.ed25519Sign secretKey (signable unsigned)).val }

def verifyInviteBlob (blob : InviteBlob) : Except String Unit := do
  let pubBytes ← (orThrow (hexDecode blob.publicKey.toList) ()).mapError fun _ =>
    "invalid public key hex: " ++ libs.hexError blob.publicKey
  if hKey : pubBytes.length = 32 then
    (libs.keyFault ⟨pubBytes, hKey⟩).elim (.ok ()) fun e => .error ("invalid public key: " ++ e)
    if hSignature : blob.signature.length = 64 then
      refuseIf (prims.ed25519Verify ⟨pubBytes, hKey⟩ (signable blob) ⟨blob.signature, hSignature⟩ = false)
        ("invalid invite signature: " ++ libs.signatureError)
    else throw "signature must be 64 bytes"
  else throw "public key must be 32 bytes"

def scheme : String := "rekindle://"

def encodeInviteUrl (blob : InviteBlob) : String := scheme ++ String.ofList (Base64.encode (blobToVec blob))

/-- `url.strip_prefix("rekindle://").unwrap_or(url)`. -/
def stripScheme (url : String) : String :=
  if scheme.toList.isPrefixOf url.toList then String.ofList (url.toList.drop scheme.toList.length) else url

def decodeInviteUrl (url : String) : Except String InviteBlob := do
  let text := stripScheme url
  let jsonBytes ← orThrow (Base64.decode text.toList) ("invalid base64: " ++ libs.base64Error text)
  (libs.fromSlice jsonBytes).mapError ("invalid invite JSON: " ++ ·)

/-- JSON is read back as it was written. -/
def Libraries.RoundTrips (libs : Libraries) : Prop := ∀ blob, libs.fromSlice (blobToVec blob) = .ok blob

/-! ## The URL -/

section
variable {prims libs} {blob other : InviteBlob}

theorem stripScheme_append (text : String) : stripScheme (scheme ++ text) = text := by
  rw [stripScheme, String.toList_append, if_pos (by simp), List.drop_left, String.ofList_toList]

theorem decodeInviteUrl_encode (hLibs : libs.RoundTrips) (blob : InviteBlob) :
    decodeInviteUrl libs (encodeInviteUrl blob) = .ok blob := by
  rw [decodeInviteUrl, encodeInviteUrl, stripScheme_append, String.toList_ofList, Base64.decode_encode]
  change (libs.fromSlice (blobToVec blob)).mapError _ = _
  rw [hLibs]
  rfl

/-! ## The signed text -/

/-- The fields that the signature covers. -/
def unsigned (blob : InviteBlob) : InviteBlob := { blob with signature := [] }

theorem textValue_injective : Function.Injective textValue := by
  intro text other h
  have hRead := congrArg textOf h
  rwa [textOf_textValue, textOf_textValue, Option.some_inj] at hRead

theorem bytesValue_injective : Function.Injective bytesValue := by
  intro bytes other h
  have hRead := congrArg bytesOf h
  rwa [bytesOf_bytesValue, bytesOf_bytesValue, Option.some_inj] at hRead

theorem write_injective : Function.Injective write := by
  intro value other h
  have hRead := congrArg parse h
  rwa [parse_write, parse_write, Option.some_inj] at hRead

/-- The signed text is that of no other fields. -/
theorem signable_eq_iff : signable blob = signable other ↔ unsigned blob = unsigned other := by
  constructor
  · intro h
    have hValue := write_injective h
    simp only [inviteValue, objectValue, List.map_cons, List.map_nil, Value.object.injEq, List.cons.injEq,
      Prod.mk.injEq, true_and, and_true] at hValue
    obtain ⟨hName, hMailbox, hBundle, hProfile, hKey, hRoute⟩ := hValue
    simp only [unsigned, InviteBlob.mk.injEq, and_true]
    exact ⟨textValue_injective hKey, textValue_injective hName, textValue_injective hMailbox,
      textValue_injective hProfile, bytesValue_injective hRoute, bytesValue_injective hBundle⟩
  · intro h
    have hSame : signable (unsigned blob) = signable (unsigned other) := congrArg signable h
    exact hSame

/-- What an identity signs: invites, envelopes and the prekeys of its bundles. No clock shows `2 ^ 56` milliseconds. -/
inductive SignedBy (issued : Set InviteBlob) : Bytes → Prop
  | invite {blob : InviteBlob} (h : blob ∈ issued) : SignedBy issued (signable blob)
  | envelope {timestamp : UInt64} (nonce payload : Bytes) (h : timestamp.toNat < 72057594037927936) :
      SignedBy issued (signedData timestamp nonce payload)
  | prekey (key : Key) : SignedBy issued key.val

/-- The clock's last byte is zero, and no JSON has a zero byte. -/
theorem signable_ne_signedData {timestamp : UInt64} {nonce payload : Bytes}
    (hClock : timestamp.toNat < 72057594037927936) : signable blob ≠ signedData timestamp nonce payload := by
  intro hSame
  have hLast : toLeBytes 8 timestamp.toNat = toLeBytes 7 timestamp.toNat ++ [0] := by
    simp only [toLeBytes, List.cons_append, List.nil_append, List.cons.injEq, and_true, true_and]
    apply UInt8.toNat_inj.mp
    rw [UInt8.toNat_ofNat']
    simp only [Nat.div_div_eq_div_mul]
    rw [Nat.div_eq_of_lt (by omega)]
    rfl
  have hZero : (0 : UInt8) ∈ signable blob := by
    rw [hSame, signedData, hLast]
    simp
  exact (document_write _).ne_zero 0 hZero rfl

theorem signable_ne_key (blob : InviteBlob) (key : Key) : signable blob ≠ key.val := by
  intro hSame
  have hLength := congrArg List.length hSame
  have hMailbox : (writeString (ascii "mailbox_dht_key")).length = 16 := by decide
  have hProfile : (writeString (ascii "profile_dht_key")).length = 16 := by decide
  rw [key.property, signable, inviteValue, objectValue] at hLength
  simp [write, writeFields, hMailbox, hProfile] at hLength
  omega

theorem SignedBy.exists_invite {issued : Set InviteBlob} (h : SignedBy issued (signable blob)) :
    ∃ invite ∈ issued, unsigned blob = unsigned invite := by
  generalize hText : signable blob = text at h
  cases h with
  | @invite invite hIssued => exact ⟨invite, hIssued, signable_eq_iff.mp hText⟩
  | envelope nonce payload hClock => exact absurd hText (signable_ne_signedData hClock)
  | prekey key => exact absurd hText (signable_ne_key blob key)

/-! ## Accepting an invite -/

theorem verifyInviteBlob_eq_ok_iff : verifyInviteBlob prims libs blob = .ok () ↔
    ∃ (key : Key) (signature : Signature), hexDecode blob.publicKey.toList = some key.val ∧
      blob.signature = signature.val ∧ libs.keyFault key = none ∧
      prims.ed25519Verify key (signable blob) signature = true := by
  cases hHex : hexDecode blob.publicKey.toList with
  | none => simp [verifyInviteBlob, hHex, orThrow, Except.mapError, bind, Except.bind]
  | some pubBytes =>
    have hRun : verifyInviteBlob prims libs blob = if hKey : pubBytes.length = 32 then do
        (libs.keyFault ⟨pubBytes, hKey⟩).elim (.ok ()) fun e => .error ("invalid public key: " ++ e)
        if hSignature : blob.signature.length = 64 then
          refuseIf (prims.ed25519Verify ⟨pubBytes, hKey⟩ (signable blob) ⟨blob.signature, hSignature⟩ = false)
            ("invalid invite signature: " ++ libs.signatureError)
        else throw "signature must be 64 bytes"
      else throw "public key must be 32 bytes" := by
      rw [verifyInviteBlob, hHex]
      rfl
    rw [hRun]
    constructor
    · intro h
      split at h
      · next hKey =>
        cases hFault : libs.keyFault ⟨pubBytes, hKey⟩ with
        | some e => rw [hFault] at h; cases h
        | none =>
          rw [hFault] at h
          change dite _ _ _ = _ at h
          split at h
          · next hSignature =>
            rw [refuseIf_eq_ok_iff, Bool.not_eq_false] at h
            exact ⟨⟨pubBytes, hKey⟩, ⟨blob.signature, hSignature⟩, rfl, rfl, hFault, h⟩
          · cases h
      · cases h
    · rintro ⟨key, signature, hKey, hSignature, hFault, hVerified⟩
      obtain ⟨bytes, hBytes⟩ := key
      cases Option.some.inj hKey
      have hLength : blob.signature.length = 64 := by rw [hSignature, signature.property]
      rw [dif_pos hBytes, hFault]
      change dite _ _ _ = _
      rw [dif_pos hLength, refuseIf_eq_ok_iff, Bool.not_eq_false]
      have hWindow : (⟨blob.signature, hLength⟩ : Signature) = signature := Subtype.ext hSignature
      rw [hWindow]
      exact hVerified

/-- An invite under its signer's key is accepted, and comes out of its URL as it was. -/
theorem createInviteBlob_accepted (hVerify : prims.SignaturesVerify) {secretKey : Key}
    (hKey : libs.keyFault (prims.ed25519Public secretKey) = none)
    (displayName mailboxDhtKey profileDhtKey : String) (routeBlob prekeyBundle : Bytes) :
    verifyInviteBlob prims libs (createInviteBlob prims secretKey (hexEncode (prims.ed25519Public secretKey).val)
      displayName mailboxDhtKey profileDhtKey routeBlob prekeyBundle) = .ok () :=
  verifyInviteBlob_eq_ok_iff.mpr ⟨_, _, hexDecode_hexEncode _, rfl, hKey, hVerify _ _⟩

/-- The fields of an invite that verifies under the signer's key are those of an invite that the signer issued. -/
theorem accepted_issued {secretKey : Key} {issued : Set InviteBlob}
    (hKey : hexDecode blob.publicKey.toList = some (prims.ed25519Public secretKey).val)
    (hUnforged : ∀ signature : Signature, blob.signature = signature.val →
      prims.ed25519Verify (prims.ed25519Public secretKey) (signable blob) signature = true →
      SignedBy issued (signable blob))
    (hAccepted : verifyInviteBlob prims libs blob = .ok ()) : ∃ invite ∈ issued, unsigned blob = unsigned invite := by
  obtain ⟨key, signature, hHex, hSignature, -, hVerified⟩ := verifyInviteBlob_eq_ok_iff.mp hAccepted
  have hSame : key = prims.ed25519Public secretKey := Subtype.ext (Option.some.inj (hHex.symm.trans hKey))
  rw [hSame] at hVerified
  exact (hUnforged signature hSignature hVerified).exists_invite

/-- Invites survive their URL and are accepted, and whatever is accepted under the signer's key has the fields
of an invite that the signer issued. -/
theorem invites_keep_their_fields (hLibs : libs.RoundTrips) (hVerify : prims.SignaturesVerify) (secretKey : Key)
    (hKey : libs.keyFault (prims.ed25519Public secretKey) = none) :
    (∀ displayName mailboxDhtKey profileDhtKey routeBlob prekeyBundle,
      let blob := createInviteBlob prims secretKey (hexEncode (prims.ed25519Public secretKey).val)
        displayName mailboxDhtKey profileDhtKey routeBlob prekeyBundle
      decodeInviteUrl libs (encodeInviteUrl blob) = .ok blob ∧ verifyInviteBlob prims libs blob = .ok ()) ∧
    ∀ issued blob, hexDecode blob.publicKey.toList = some (prims.ed25519Public secretKey).val →
      (∀ signature : Signature, blob.signature = signature.val →
        prims.ed25519Verify (prims.ed25519Public secretKey) (signable blob) signature = true →
        SignedBy issued (signable blob)) →
      verifyInviteBlob prims libs blob = .ok () → ∃ invite ∈ issued, unsigned blob = unsigned invite := by
  constructor
  · intro displayName mailboxDhtKey profileDhtKey routeBlob prekeyBundle
    exact ⟨decodeInviteUrl_encode hLibs _, createInviteBlob_accepted hVerify hKey _ _ _ _ _⟩
  · intro issued blob hHex hUnforged hAccepted
    exact accepted_issued hHex hUnforged hAccepted

end

namespace Reference

open Signal.Reference

def blobOf : Value → Option InviteBlob
  | .object fields => do
    pure {
      publicKey := ← field fields "public_key" textOf
      displayName := ← field fields "display_name" textOf
      mailboxDhtKey := ← field fields "mailbox_dht_key" textOf
      profileDhtKey := ← field fields "profile_dht_key" textOf
      routeBlob := ← field fields "route_blob" bytesOf
      prekeyBundle := ← field fields "prekey_bundle" bytesOf
      signature := ← field fields "signature" bytesOf }
  | _ => none

def libraries : Libraries where
  fromSlice raw := orThrow ((parse raw).bind blobOf) "malformed invite"
  hexError text := "no hex: " ++ text
  base64Error text := "no base64: " ++ text
  keyFault _ := none
  signatureError := "signature error"

theorem libraries_roundTrips : libraries.RoundTrips := by
  intro blob
  change orThrow ((parse (write (blobValue blob))).bind blobOf) _ = _
  rw [parse_write, Option.bind_some, orThrow_eq_ok_iff]
  simp [blobValue, blobOf, objectValue, field, List.lookup_cons]

/-- The only invite that Alice issued. -/
def aliceInvite : InviteBlob := createInviteBlob primitives (sampleKey 1)
  (hexEncode (primitives.ed25519Public (sampleKey 1)).val) "Alice" "" "VLD0:a" [1] []

theorem invites_keep_their_fields_alice :
    decodeInviteUrl libraries (encodeInviteUrl aliceInvite) = .ok aliceInvite ∧
    verifyInviteBlob primitives libraries aliceInvite = .ok () ∧
    ∃ invite ∈ ({aliceInvite} : Set InviteBlob), unsigned aliceInvite = unsigned invite := by
  obtain ⟨hSigned, hAccepted⟩ := invites_keep_their_fields libraries_roundTrips signaturesVerify (sampleKey 1) rfl
  obtain ⟨hUrl, hVerified⟩ := hSigned "Alice" "" "VLD0:a" [1] []
  have hKey : hexDecode aliceInvite.publicKey.toList = some (primitives.ed25519Public (sampleKey 1)).val :=
    hexDecode_hexEncode (primitives.ed25519Public (sampleKey 1)).val
  have hIssued : SignedBy {aliceInvite} (signable aliceInvite) := .invite (Set.mem_singleton _)
  exact ⟨hUrl, hVerified, hAccepted {aliceInvite} aliceInvite hKey (fun _ _ _ => hIssued) hVerified⟩

end Reference

end Rekindle.Client.Invites
