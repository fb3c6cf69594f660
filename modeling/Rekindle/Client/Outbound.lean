import Rekindle.Client.State

/-! # Sending

Every message leaves through `sendEnvelopeToPeer`, which signs an envelope and hands it to the
transport or to the retry queue. Only there is a payload encrypted.
-/
namespace Rekindle.Client
set_option autoImplicit false

open Signal MemoryStores

variable (externals : Externals) (ambient : Ambient)

/-- The payload as it goes into the envelope: through the session with the peer when there is one. -/
def sealPayload (peer : String) (payloadBytes : Bytes) (state : AppState) : Except String Bytes × AppState :=
  match state.signalManager with
  | none => (.ok payloadBytes, state)
  | some stores =>
    match (hasSession manager peer).run stores with
    | .ok true stores =>
      match (encrypt externals.prims manager peer payloadBytes).run stores with
      | .ok ciphertext stores => (.ok ciphertext, state.setStores stores)
      | .error _ stores => (.error "Signal encrypt", state.setStores stores)
    | _ => (.ok payloadBytes, state)

def queuePendingMessage (recipientKey : String) (body : MessageEnvelope) (state : AppState) :
    Except String Unit × AppState :=
  match state.db.insertPendingMessage ⟨state.ownerKey, recipientKey, body, ambient.timestampNow, 0⟩ with
  | none => (.error "queue pending message", state)
  | some db => (.ok (), { state with db := db })

def MessagePayload.isEphemeral : MessagePayload → Bool
  | .typingIndicator _ => true
  | _ => false

/-- The part of `send_envelope_to_peer` after the payload is sealed. -/
def dispatchEnvelope (peer : String) (isEphemeral : Bool) (finalPayload : Bytes) (state : AppState) :
    Except String Unit × AppState :=
  match state.identitySecret with
  | none => (.error "signing key not initialized", state)
  | some secretKey =>
    let envelope := buildEnvelopeFromSecret externals.prims secretKey ambient.now
      (ambient.nonce peer).val finalPayload
    if state.node.isNone then (.error "node not initialized", state)
    else if state.dhtManager.isNone then (.error "DHT manager not initialized", state)
    else if ambient.reaches peer then (.ok (), state.transmit peer envelope)
    else if isEphemeral then (.ok (), state)
    else queuePendingMessage ambient peer envelope state

def sendEnvelopeToPeer (peer : String) (payload : MessagePayload) (encrypted : Bool) (state : AppState) :
    Except String Unit × AppState :=
  let payloadBytes := externals.payloadToVec payload
  let (finalPayload, state) :=
    if encrypted then sealPayload externals peer payloadBytes state else (.ok payloadBytes, state)
  match finalPayload with
  | .error e => (.error e, state)
  | .ok finalPayload => dispatchEnvelope externals ambient peer payload.isEphemeral finalPayload state

def sendMessage (peer body : String) : AppState → Except String Unit × AppState :=
  sendEnvelopeToPeer externals ambient peer (.directMessage body none) true

def sendTyping (peer : String) (typing : Bool) : AppState → Except String Unit × AppState :=
  sendEnvelopeToPeer externals ambient peer (.typingIndicator typing) true

def sendToPeerRaw (peer : String) (payload : MessagePayload) : AppState → Except String Unit × AppState :=
  sendEnvelopeToPeer externals ambient peer payload false

def sendFriendReject (peer : String) : AppState → Except String Unit × AppState :=
  sendEnvelopeToPeer externals ambient peer .friendReject false

/-- A new bundle under signed prekey id 1 and one-time prekey id 1, serialized; empty without a
manager and when the generation fails. -/
def offerPrekeyBundle (state : AppState) : Bytes × AppState :=
  let (bundle, state) := state.callManager
    (generatePrekeyBundle externals.prims manager ambient.signedPrekey ambient.otpk 1 (some 1))
  (bundle.elim [] externals.bundleToVec, state)

def sendFriendRequest (peer message : String) (state : AppState) : Except String Unit × AppState :=
  match state.identity with
  | none => (.error "identity not set", state)
  | some identity =>
    let (prekeyBundle, state) := offerPrekeyBundle externals ambient state
    match state.node with
    | none => (.error "node not initialized", state)
    | some node =>
      sendEnvelopeToPeer externals ambient peer (.friendRequest {
        displayName := identity.displayName
        message := message
        prekeyBundle := prekeyBundle
        profileDhtKey := node.profileDhtKey.getD ""
        routeBlob := node.routeBlob.getD []
        mailboxDhtKey := node.mailboxDhtKey.getD ""
      }) false state

def friendAccept (prekeyBundle : Bytes) (node : NodeHandle) (sessionInit : Option SessionInitInfo) :
    FriendAccept where
  prekeyBundle := prekeyBundle
  profileDhtKey := node.profileDhtKey.getD ""
  routeBlob := node.routeBlob.getD []
  mailboxDhtKey := node.mailboxDhtKey.getD ""
  ephemeralKey := sessionInit.elim [] (·.ephemeralPublicKey)
  signedPrekeyId := sessionInit.elim 1 (·.signedPrekeyId)
  oneTimePrekeyId := sessionInit.bind (·.oneTimePrekeyId)

def sendFriendAccept (peer : String) (sessionInit : Option SessionInitInfo) (state : AppState) :
    Except String Unit × AppState :=
  let (prekeyBundle, state) := offerPrekeyBundle externals ambient state
  match state.node with
  | none => (.error "node not initialized", state)
  | some node =>
    sendEnvelopeToPeer externals ambient peer (.friendAccept (friendAccept prekeyBundle node sessionInit))
      false state

/-- The unsent copy of an `Unfriended` that the retry loop keeps sending. -/
def buildAndQueueEnvelope (peer : String) (payload : MessagePayload) (state : AppState) :
    Except String Unit × AppState :=
  match state.identitySecret with
  | none => (.error "signing key not initialized", state)
  | some secretKey =>
    queuePendingMessage ambient peer (buildEnvelopeFromSecret externals.prims secretKey ambient.now
      ambient.queuedNonce.val (externals.payloadToVec payload)) state

end Rekindle.Client
